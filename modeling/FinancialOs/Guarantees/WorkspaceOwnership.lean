import FinancialOs.Library.TransitionRuns
import FinancialOs.Routers.AccountDeletion

/-! Who owns a workspace: the column of the workspace and the one owner among its members agree,
whatever is created, joined, left, handed on or deleted. -/
namespace FinancialOs.Guarantees
open Library Store Routers

/-- The database and the invitations the server has signed. -/
structure UyelikSistemi where
  v : KisiselDb
  davetler : List Davet

inductive UyelikOlayi where
  | kayit (email : String)
  | oauthKayit (email : String)
  | oauthGiris (userId : ℕ)
  | workspaceAc (userId : ℕ) (name : String)
  | davetEt (userId : ℕ) (xWorkspaceId : Option ℤ) (workspaceId : ℤ) (email : String) (role : WorkspaceRole)
      (hesapAcabilir : Bool) (simdi : ℕ)
  | katil (userId : ℕ) (token : Option Davet) (simdi : ℕ)
  | uyeCikar (userId : ℕ) (xWorkspaceId : Option ℤ) (workspaceId targetUserId : ℤ)
  | hesapSil (userId : ℕ)
  | satirlariDegis (satirlar : Relations Tablo KisiSutunlari)

/-- One request; what the other endpoints write to the other tables is arbitrary. -/
def uyelikAdimi (sira : List Tablo) (s : UyelikSistemi) : UyelikOlayi → UyelikSistemi
  | .kayit email => { s with v := kayitSatirlari s.v email }
  | .oauthKayit email => { s with v := { s.v with users := s.v.users.push ⟨some email⟩ } }
  | .oauthGiris userId =>
    if (s.v.users.get? userId).isSome then { s with v := ensurePersonalWorkspace s.v userId } else s
  | .workspaceAc userId name => { s with v := workspaceUcu s.v (createWorkspace s.v.db userId name) }
  | .davetEt userId x workspaceId email role hesapAcabilir simdi =>
    match inviteMember s.v.db userId x workspaceId email role hesapAcabilir simdi with
    | .ok davet => { s with davetler := davet :: s.davetler }
    | .error _ => s
  | .katil userId token simdi =>
    { s with v := workspaceUcu s.v (joinWorkspace s.v.db userId (token.filter (· ∈ s.davetler)) simdi) }
  | .uyeCikar userId x workspaceId targetUserId =>
    { s with v := workspaceUcu s.v (removeMember s.v.db userId x workspaceId targetUserId) }
  | .hesapSil userId => { s with v := deleteMe sira s.v userId }
  | .satirlariDegis satirlar => { s with v := { s.v with satirlar := satirlar } }

/-- Of the members of the workspace exactly one has the role of the owner, and it is this user. -/
def TekOwner (ms : Table WorkspaceMembership) (w owner : ℕ) : Prop :=
  ∃ k m, ms.get? k = some m ∧ m.workspaceId = w ∧ m.userId = owner ∧ m.role = .owner ∧
    ∀ j n, ms.get? j = some n → n.workspaceId = w → n.role = .owner → j = k

/-- The pairing, but for workspaces that have lost their owner. -/
structure SahiplikUyumu (sahipsiz : List ℕ) (ws : Table Workspace) (ms : Table WorkspaceMembership) : Prop where
  sahip : ∀ w row, ws.get? w = some row → w ∉ sahipsiz → TekOwner ms w row.ownerUserId
  sahipsiz : ∀ k m, ms.get? k = some m → m.workspaceId ∈ sahipsiz → m.role ≠ .owner
  uyelik : ∀ k m, ms.get? k = some m → (ws.get? m.workspaceId).isSome = true

section Steps
variable {ws : Table Workspace} {ms : Table WorkspaceMembership} {w u k : ℕ} {m : WorkspaceMembership}
  {role : WorkspaceRole} {sahipsiz : List ℕ}

theorem TekOwner.push (h : TekOwner ms w u) (hn : m.workspaceId = w → m.role ≠ .owner) : TekOwner (ms.push m) w u := by
  obtain ⟨k, a, hk, hw, hu, hrole, htek⟩ := h
  have hne : k ≠ ms.freshKey := by
    rintro rfl
    rw [Table.get?_freshKey] at hk
    cases hk
  refine ⟨k, a, ?_, hw, hu, hrole, fun j n hj hnw hnr => ?_⟩
  · rw [Table.get?_push, if_neg hne, hk]
  · rw [Table.get?_push] at hj
    split at hj
    · obtain rfl := Option.some.inj hj
      exact absurd hnr (hn hnw)
    · exact htek j n hj hnw hnr

/-- A new workspace comes with its owner. -/
theorem SahiplikUyumu.ac (h : SahiplikUyumu [] ws ms) (u : ℕ) (isPersonal : Bool) :
    SahiplikUyumu [] (ws.push ⟨u, isPersonal⟩) (ms.push ⟨ws.freshKey, u, .owner⟩) where
  sahip w row hw _ := by
    have hyabanci : ∀ j n, ms.get? j = some n → n.workspaceId ≠ ws.freshKey := by
      intro j n hj he
      have hvar := h.uyelik j n hj
      rw [he, Table.get?_freshKey] at hvar
      cases hvar
    rw [Table.get?_push] at hw
    split at hw
    · next he =>
      subst he
      obtain rfl := Option.some.inj hw
      refine ⟨ms.freshKey, _, by rw [Table.get?_push, if_pos rfl], rfl, rfl, rfl, fun j n hj hnw _ => ?_⟩
      rw [Table.get?_push] at hj
      split at hj
      · assumption
      · exact absurd hnw (hyabanci j n hj)
    · next hne => exact (h.sahip w row hw (List.not_mem_nil)).push fun he => absurd he.symm hne
  sahipsiz _ _ _ hn := by cases hn
  uyelik k m hk := by
    rw [Table.get?_push] at hk ⊢
    split
    · rfl
    · next hne =>
      split at hk
      · obtain rfl := Option.some.inj hk
        exact absurd rfl hne
      · exact h.uyelik k m hk

/-- Nobody joins as an owner. -/
theorem SahiplikUyumu.katil (h : SahiplikUyumu [] ws ms) (hw : (ws.get? w).isSome = true) (hrole : role ≠ .owner) :
    SahiplikUyumu [] ws (ms.push ⟨w, u, role⟩) where
  sahip v row hv hn := (h.sahip v row hv hn).push fun _ => hrole
  sahipsiz _ _ _ hn := by cases hn
  uyelik k m hk := by
    rw [Table.get?_push] at hk
    split at hk
    · obtain rfl := Option.some.inj hk
      exact hw
    · exact h.uyelik k m hk

/-- The owner cannot be removed. -/
theorem SahiplikUyumu.cikar {row : Workspace} (h : SahiplikUyumu [] ws ms) (hk : ms.get? k = some m)
    (hw : ws.get? m.workspaceId = some row) (hm : m.userId ≠ row.ownerUserId) : SahiplikUyumu [] ws (ms.erase k) where
  sahip v r hv hn := by
    obtain ⟨j, n, hj, hnw, hnu, hrole, htek⟩ := h.sahip v r hv hn
    have hne : j ≠ k := by
      rintro rfl
      obtain rfl := Option.some.inj (hj.symm.trans hk)
      rw [hnw, hv] at hw
      obtain rfl := Option.some.inj hw
      exact hm hnu
    refine ⟨j, n, by rw [Table.get?_erase, if_neg hne, hj], hnw, hnu, hrole, fun i a hi => ?_⟩
    rw [Table.get?_erase] at hi
    split at hi
    · cases hi
    · exact htek i a hi
  sahipsiz _ _ _ hn := by cases hn
  uyelik j n hj := by
    rw [Table.get?_erase] at hj
    split at hj
    · cases hj
    · exact h.uyelik j n hj

/-- Without the memberships of a user the workspaces of that user have no owner. -/
theorem SahiplikUyumu.ayril (h : SahiplikUyumu [] ws ms) (u : ℕ) :
    SahiplikUyumu ((ws.select fun row => row.ownerUserId = u).map Prod.fst) ws (ms.keep fun m => m.userId ≠ u) where
  sahip w row hw hn := by
    have howner : row.ownerUserId ≠ u := by
      intro he
      exact hn (List.mem_map.mpr ⟨(w, row), Table.mem_select.mpr ⟨hw, decide_eq_true he⟩, rfl⟩)
    obtain ⟨k, m, hk, hmw, hmu, hrole, htek⟩ := h.sahip w row hw (List.not_mem_nil)
    refine ⟨k, m, Table.get?_keep.mpr ⟨hk, ?_⟩, hmw, hmu, hrole, fun j n hj => htek j n (Table.get?_keep.mp hj).1⟩
    exact decide_eq_true (hmu ▸ howner)
  sahipsiz k m hk hmem := by
    obtain ⟨hk, hmu⟩ := Table.get?_keep.mp hk
    obtain ⟨⟨w, row⟩, hsel, hw⟩ := List.mem_map.mp hmem
    obtain ⟨hrow, howner⟩ := Table.mem_select.mp hsel
    intro hrole
    obtain ⟨j, n, hj, _, hnu, _, htek⟩ := h.sahip w row hrow (List.not_mem_nil)
    obtain rfl := htek k m hk hw.symm hrole
    obtain rfl := Option.some.inj (hj.symm.trans hk)
    exact of_decide_eq_true hmu (hnu.trans (of_decide_eq_true howner))
  uyelik k m hk := h.uyelik k m (Table.get?_keep.mp hk).1

/-- Another member becomes the owner of a workspace that has none. -/
theorem SahiplikUyumu.devral (h : SahiplikUyumu (w :: sahipsiz) ws ms) (hw : w ∉ sahipsiz) (hk : ms.get? k = some m)
    (hm : m.workspaceId = w) : SahiplikUyumu sahipsiz (ws.modify w fun row => { row with ownerUserId := m.userId })
      (ms.modify k fun m => { m with role := .owner }) where
  sahip v row hv hn := by
    rw [Table.get?_modify] at hv
    by_cases hvw : v = w
    · subst hvw
      rw [if_pos rfl] at hv
      obtain ⟨row', _, rfl⟩ := Option.map_eq_some_iff.mp hv
      refine ⟨k, { m with role := .owner }, by rw [Table.get?_modify, if_pos rfl, hk]; rfl, hm, rfl, rfl,
        fun j n hj hnw hrole => ?_⟩
      by_contra hjk
      rw [Table.get?_modify, if_neg hjk] at hj
      exact h.sahipsiz j n hj (hnw ▸ List.mem_cons_self) hrole
    · rw [if_neg hvw] at hv
      obtain ⟨j, n, hj, hnw, hnu, hrole, htek⟩ := h.sahip v row hv (List.not_mem_cons_of_ne_of_not_mem hvw hn)
      have hjk : j ≠ k := by
        rintro rfl
        obtain rfl := Option.some.inj (hj.symm.trans hk)
        exact hvw (hnw.symm.trans hm)
      refine ⟨j, n, by rw [Table.get?_modify, if_neg hjk, hj], hnw, hnu, hrole, fun i a hi haw hra => ?_⟩
      rw [Table.get?_modify] at hi
      split at hi
      · next hik =>
        subst hik
        rw [hk] at hi
        obtain rfl := Option.some.inj hi
        exact absurd (haw.symm.trans hm) hvw
      · exact htek i a hi haw hra
  sahipsiz j n hj hmem := by
    rw [Table.get?_modify] at hj
    split at hj
    · next hjk =>
      subst hjk
      rw [hk] at hj
      obtain rfl := Option.some.inj hj
      exact absurd (hm ▸ hmem) hw
    · exact h.sahipsiz j n hj (List.mem_cons_of_mem _ hmem)
  uyelik j n hj := by
    have hvar : ∀ x, (ws.get? x).isSome = true →
        ((ws.modify w fun row => { row with ownerUserId := m.userId }).get? x).isSome = true := by
      intro x hx
      rw [Table.get?_modify]
      split
      · rwa [Option.isSome_map]
      · exact hx
    rw [Table.get?_modify] at hj
    split at hj
    · obtain ⟨a, ha, rfl⟩ := Option.map_eq_some_iff.mp hj
      exact hvar _ (h.uyelik j a ha)
    · exact hvar _ (h.uyelik j n hj)

/-- The workspaces without an owner go, and their members with them. -/
theorem SahiplikUyumu.kaldir (h : SahiplikUyumu sahipsiz ws ms) :
    SahiplikUyumu [] (ws.retain fun w _ => w ∉ sahipsiz) (ms.keep fun m => m.workspaceId ∉ sahipsiz) where
  sahip w row hw _ := by
    obtain ⟨hrow, hmem⟩ := Table.get?_retain.mp hw
    obtain ⟨k, m, hk, hmw, hmu, hrole, htek⟩ := h.sahip w row hrow (of_decide_eq_true hmem)
    refine ⟨k, m, Table.get?_keep.mpr ⟨hk, ?_⟩, hmw, hmu, hrole, fun j n hj => htek j n (Table.get?_keep.mp hj).1⟩
    exact hmw ▸ hmem
  sahipsiz _ _ _ hn := by cases hn
  uyelik k m hk := by
    obtain ⟨hk, hmem⟩ := Table.get?_keep.mp hk
    obtain ⟨row, hrow⟩ := Option.isSome_iff_exists.mp (h.uyelik k m hk)
    rw [Table.get?_retain.mpr ⟨hrow, hmem⟩]
    rfl

theorem SahiplikUyumu.perm {sahipsiz' : List ℕ} (h : SahiplikUyumu sahipsiz ws ms) (hp : sahipsiz.Perm sahipsiz') :
    SahiplikUyumu sahipsiz' ws ms where
  sahip w row hw hn := h.sahip w row hw fun hmem => hn (hp.mem_iff.mp hmem)
  sahipsiz k m hk hmem := h.sahipsiz k m hk (hp.mem_iff.mpr hmem)
  uyelik := h.uyelik

end Steps

section Requests
variable {v v' : KisiselDb} {sira : List Tablo}

/-- The workspaces and the members of the database fit together. -/
def KisiselDb.Uyumlu (v : KisiselDb) : Prop := SahiplikUyumu [] v.workspaces v.memberships

/-- Whatever is not handed on is on the list of the workspaces that go. -/
theorem sahiplikUyumu_devret (u : ℕ) (kalan liste : List ℕ)
    (h : SahiplikUyumu (kalan ++ liste) v.workspaces v.memberships) (hnodup : (kalan ++ liste).Nodup) :
    SahiplikUyumu (kalan.foldl (devret u) (v, liste)).2 (kalan.foldl (devret u) (v, liste)).1.workspaces
      (kalan.foldl (devret u) (v, liste)).1.memberships := by
  induction kalan generalizing v liste with
  | nil => exact h
  | cons w kalan ih =>
    rw [List.foldl_cons, devret]
    cases hy : yeniSahip v.memberships w u with
    | none =>
      have hp : (w :: kalan ++ liste).Perm (kalan ++ (liste ++ [w])) := by
        rw [← List.append_assoc, List.cons_append]
        exact (List.perm_append_singleton w (kalan ++ liste)).symm
      exact ih _ (h.perm hp) (hp.nodup_iff.mp hnodup)
    | some y =>
      obtain ⟨hk, hw, -⟩ := yeniSahip_some hy
      obtain ⟨hnot, hrest⟩ := List.nodup_cons.mp hnodup
      exact ih _ (h.devral hnot hk hw) hrest

theorem uyumlu_hesabiSil (h : KisiselDb.Uyumlu v) {u : ℕ} (hs : hesabiSil sira v u = some v') :
    KisiselDb.Uyumlu v' := by
  simp only [hesabiSil, purgeUserData, kullaniciSatirlariniSil, Option.bind_eq_bind, Option.bind_eq_some_iff,
    Option.map_eq_some_iff] at hs
  obtain ⟨v₂, ⟨v₁, ⟨satirlar, _, rfl⟩, hsil⟩, hs⟩ := hs
  obtain ⟨_, rfl⟩ : ¬ kullaniciKullanimda v₂ u ∧ { v₂ with users := v₂.users.erase u } = v' := by
    split at hs
    · cases hs
    · next hn => exact ⟨hn, Option.some.inj hs⟩
  have hdevir := sahiplikUyumu_devret (v := { v with
      satirlar := satirlar
      memberships := v.memberships.keep fun m => m.userId ≠ u }) u _ []
    (by rw [List.append_nil]; exact h.ayril u) (by
      rw [List.append_nil]
      exact v.workspaces.nodup.sublist (List.filter_sublist.map _))
  change SahiplikUyumu [] v₂.workspaces v₂.memberships
  simp only [workspaceleriSil] at hsil
  split at hsil
  · next hnil =>
    obtain rfl := Option.some.inj hsil
    rw [← hnil]
    exact hdevir
  · simp only [Option.bind_eq_bind, Option.bind_eq_some_iff] at hsil
    obtain ⟨satirlar', _, hsil⟩ := hsil
    split at hsil
    · cases hsil
    · obtain rfl := Option.some.inj hsil
      exact hdevir.kaldir

theorem uyumlu_ensurePersonalWorkspace (h : KisiselDb.Uyumlu v) (u : ℕ) :
    KisiselDb.Uyumlu (ensurePersonalWorkspace v u) := by
  rw [ensurePersonalWorkspace]
  cases hp : personalWorkspace v.db u with
  | some w =>
    obtain ⟨⟨w, row⟩, hfirst, rfl⟩ := Option.map_eq_some_iff.mp hp
    obtain ⟨hrow, howner⟩ := Table.first?_spec hfirst
    obtain ⟨k, m, hk, hmw, hmu, -⟩ := h.sahip w row hrow (List.not_mem_nil)
    have hvar : v.memberships.any (fun m => m.workspaceId = w ∧ m.userId = u) = true :=
      Table.any_eq_true.mpr ⟨k, m, hk, decide_eq_true ⟨hmw, hmu.trans (of_decide_eq_true howner).1⟩⟩
    change KisiselDb.Uyumlu (ownerUyeligiEkle v w u)
    rw [ownerUyeligiEkle, if_pos hvar]
    exact h
  | none =>
    have hyok : ¬ v.memberships.any (fun m => m.workspaceId = v.workspaces.freshKey ∧ m.userId = u) = true := by
      rintro hvar
      obtain ⟨k, m, hk, hm⟩ := Table.any_eq_true.mp hvar
      have hws := h.uyelik k m hk
      rw [(of_decide_eq_true hm).1, Table.get?_freshKey] at hws
      cases hws
    change KisiselDb.Uyumlu
      (ownerUyeligiEkle { v with workspaces := v.workspaces.push ⟨u, true⟩ } v.workspaces.freshKey u)
    rw [ownerUyeligiEkle, if_neg hyok]
    exact h.ac u true

theorem uyumlu_workspaceUcu {r : Except UcHatasi (List Write)} (h : KisiselDb.Uyumlu v)
    (hr : ∀ ws, r = .ok ws → SahiplikUyumu [] (v.db.writeAll ws).workspaces (v.db.writeAll ws).memberships) :
    KisiselDb.Uyumlu (workspaceUcu v r) := by
  unfold KisiselDb.Uyumlu workspaceUcu
  rcases sonuc_cases v.db r with he | ⟨ws, hok, he, -⟩
  · rw [he]
    exact h
  · rw [he]
    exact hr ws hok

theorem uyumlu_empty : KisiselDb.Uyumlu .empty where
  sahip _ _ hw := absurd hw (Option.some_ne_none _).symm
  sahipsiz _ _ hk := absurd hk (Option.some_ne_none _).symm
  uyelik _ _ hk := absurd hk (Option.some_ne_none _).symm

/-- The pairing, and no invitation makes an owner. -/
structure UyelikUyumu (s : UyelikSistemi) : Prop where
  uyumlu : KisiselDb.Uyumlu s.v
  davet : ∀ d ∈ s.davetler, d.role ≠ .owner

theorem uyelikUyumu_adim {s : UyelikSistemi} (h : UyelikUyumu s) (olay : UyelikOlayi) :
    UyelikUyumu (uyelikAdimi sira s olay) := by
  cases olay with
  | kayit email =>
    exact ⟨uyumlu_ensurePersonalWorkspace (v := { s.v with users := s.v.users.push ⟨some email⟩ }) h.uyumlu _, h.davet⟩
  | oauthKayit email => exact ⟨h.uyumlu, h.davet⟩
  | oauthGiris u =>
    rw [uyelikAdimi]
    split
    · exact ⟨uyumlu_ensurePersonalWorkspace h.uyumlu u, h.davet⟩
    · exact h
  | workspaceAc u name =>
    refine ⟨uyumlu_workspaceUcu h.uyumlu fun ws hws => ?_, h.davet⟩
    obtain rfl := createWorkspace_ok hws
    exact h.uyumlu.ac u false
  | davetEt u x w email role hesapAcabilir simdi =>
    rw [uyelikAdimi]
    split
    · next davet hd => exact ⟨h.uyumlu, List.forall_mem_cons.mpr ⟨(inviteMember_ok hd).1, h.davet⟩⟩
    · exact h
  | katil u token simdi =>
    refine ⟨uyumlu_workspaceUcu h.uyumlu fun ws hws => ?_, h.davet⟩
    obtain ⟨davet, htoken, _, _, hvar, rfl | ⟨_, rfl⟩⟩ := joinWorkspace_ok hws
    · exact h.uyumlu
    · exact h.uyumlu.katil hvar (h.davet davet (of_decide_eq_true (Option.filter_eq_some_iff.mp htoken).2))
  | uyeCikar u x w target =>
    refine ⟨uyumlu_workspaceUcu h.uyumlu fun ws hws => ?_, h.davet⟩
    obtain ⟨w, row, k, m, rfl, hrow, hne, hk, rfl, rfl, rfl⟩ := removeMember_ok hws
    exact h.uyumlu.cikar hk hrow fun he => hne (congrArg _ he)
  | hesapSil u =>
    refine ⟨?_, h.davet⟩
    change KisiselDb.Uyumlu ((hesabiSil sira s.v u).getD s.v)
    cases hs : hesabiSil sira s.v u with
    | none => exact h.uyumlu
    | some v' => exact uyumlu_hesabiSil h.uyumlu hs
  | satirlariDegis satirlar => exact ⟨h.uyumlu, h.davet⟩

end Requests

/-- In every reachable state each workspace has exactly one owner among its members, and it is the user
of its owner column. -/
theorem workspaces_have_one_owner (sira : List Tablo) (olaylar : List UyelikOlayi) :
    let v := (run (uyelikAdimi sira) ⟨.empty, []⟩ olaylar).v
    ∀ w row, v.workspaces.get? w = some row → TekOwner v.memberships w row.ownerUserId := by
  intro v w row hw
  have hbas : UyelikUyumu ⟨.empty, []⟩ := ⟨uyumlu_empty, fun _ h => (List.not_mem_nil h).elim⟩
  have hadim (s : UyelikSistemi) (olay : UyelikOlayi) (hs : UyelikUyumu s) : UyelikUyumu (uyelikAdimi sira s olay) :=
    uyelikUyumu_adim hs olay
  have hson := run_invariant_all hadim olaylar hbas
  exact hson.uyumlu.sahip w row hw List.not_mem_nil

end FinancialOs.Guarantees
