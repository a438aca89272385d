import FinancialOs.Library.KeyedTable
import Mathlib.Data.Fintype.Basic

/-! Tables whose rows refer to one another by key. A deletion takes the rows that cascade along, clears
the columns that are set null, and fails where a row that stays refers to one that goes. -/
namespace FinancialOs.Library

inductive OnDelete where
  | noAction | cascade | setNull
  deriving DecidableEq

/-- A column that holds the key of a row of another table. -/
structure KeyColumn (τ : Type) where
  target : τ
  onDelete : OnDelete
  deriving DecidableEq

/-- A row with the keys it holds, one for each key column of its table. -/
structure KeyedRow (γ : Type) where
  cols : γ
  refs : List (Option ℕ)
  deriving DecidableEq

abbrev Relations (τ γ : Type) := τ → Table (KeyedRow γ)

namespace Relations
variable {τ γ : Type} [DecidableEq τ]

/-- The row holds the key of that one in a column with this rule. -/
def Refers (schema : τ → List (KeyColumn τ)) (t : τ) (r : KeyedRow γ) (rule : OnDelete) (target : τ) (k : ℕ) :
    Prop := (⟨target, rule⟩, some k) ∈ (schema t).zip r.refs

instance (schema : τ → List (KeyColumn τ)) (t : τ) (r : KeyedRow γ) (rule : OnDelete) (target : τ) (k : ℕ) :
    Decidable (Refers schema t r rule target k) :=
  inferInstanceAs (Decidable (_ ∈ (schema t).zip r.refs))

section Deletion
variable (schema : τ → List (KeyColumn τ)) (s : Relations τ γ) (t : τ) (p : ℕ → KeyedRow γ → Bool)

/-- The row goes: the statement names it, or it cascades from one that the statement names. -/
def doomed (u : τ) (k : ℕ) (r : KeyedRow γ) : Bool :=
  (u = t ∧ p k r = true) ∨ ∃ q ∈ (s t).rows, p q.1 q.2 = true ∧ Refers schema u r .cascade t q.1

/-- The key is that of a row that goes. -/
def gone (u : τ) (k : ℕ) : Bool := ((s u).get? k).any fun r => doomed schema s t p u k r

def cleared (u : τ) (r : KeyedRow γ) : KeyedRow γ := { r with
  refs := ((schema u).zip r.refs).map fun c =>
    c.2.filter fun k => ¬ (c.1.onDelete = .setNull ∧ gone schema s t p c.1.target k = true) }

/-- A row that stays refers to one that goes, and nothing happens about it. -/
def Blocked : Prop :=
  ∃ u, ∃ q ∈ (s u).rows, doomed schema s t p u q.1 q.2 = false ∧
    ∃ c ∈ (schema u).zip q.2.refs, c.1.onDelete = .noAction ∧ c.2.any (fun k => gone schema s t p c.1.target k) = true

instance [Fintype τ] : Decidable (Blocked schema s t p) :=
  inferInstanceAs (Decidable (∃ u, ∃ q ∈ (s u).rows, doomed schema s t p u q.1 q.2 = false ∧
    ∃ c ∈ (schema u).zip q.2.refs, c.1.onDelete = .noAction ∧ c.2.any (fun k => gone schema s t p c.1.target k) = true))

def survivors : Relations τ γ := fun u =>
  ((s u).retain fun k r => !doomed schema s t p u k r).mapRows (cleared schema s t p u)

/-- `DELETE FROM t WHERE p`, with the constraints checked at its end. -/
def delete [Fintype τ] : Option (Relations τ γ) :=
  if Blocked schema s t p then none else some (survivors schema s t p)

end Deletion

section Lemmas
variable {schema : τ → List (KeyColumn τ)} {s : Relations τ γ} {t u v : τ} {p : ℕ → KeyedRow γ → Bool}
  {k j : ℕ} {r r' : KeyedRow γ}

theorem doomed_iff : doomed schema s t p u k r = true ↔
    u = t ∧ p k r = true ∨ ∃ j q, (s t).get? j = some q ∧ p j q = true ∧ Refers schema u r .cascade t j := by
  simp only [doomed, decide_eq_true_eq, Prod.exists, Table.get?_eq_some]

theorem gone_iff : gone schema s t p u k = true ↔ ∃ r, (s u).get? k = some r ∧ doomed schema s t p u k r = true := by
  simp only [gone, Option.any_eq_true]

omit [DecidableEq τ] in
theorem refers_target {rule : OnDelete} (h : Refers schema u r rule v j) : ⟨v, rule⟩ ∈ schema u :=
  (List.of_mem_zip h).1

theorem blocked_iff : Blocked schema s t p ↔ ∃ u k r v j, (s u).get? k = some r ∧
    doomed schema s t p u k r = false ∧ Refers schema u r .noAction v j ∧ gone schema s t p v j = true := by
  constructor
  · rintro ⟨u, ⟨k, r⟩, hr, hstay, ⟨⟨v, rule⟩, ref⟩, hc, rfl, hgone⟩
    obtain ⟨j, rfl, hj⟩ := Option.any_eq_true _ _ |>.mp hgone
    exact ⟨u, k, r, v, j, Table.get?_eq_some.mpr hr, hstay, hc, hj⟩
  · rintro ⟨u, k, r, v, j, hr, hstay, hc, hj⟩
    exact ⟨u, (k, r), Table.get?_eq_some.mp hr, hstay, (⟨v, .noAction⟩, some j), hc, rfl, hj⟩

theorem get?_survivors : (survivors schema s t p u).get? k = some r' ↔
    ∃ r, (s u).get? k = some r ∧ doomed schema s t p u k r = false ∧ cleared schema s t p u r = r' := by
  simp only [survivors, Table.get?_mapRows, Option.map_eq_some_iff, Table.get?_retain, Bool.not_eq_true', and_assoc]

private theorem zip_map_zip {α β : Type} (l : List α) (m : List β) (f : α × β → β) :
    l.zip ((l.zip m).map f) = (l.zip m).map fun c => (c.1, f c) := by
  induction l generalizing m with
  | nil => rfl
  | cons a l ih =>
    cases m with
    | nil => rfl
    | cons b m => exact congrArg _ (ih m)

/-- What is cleared is nothing that could have blocked. -/
theorem refers_cleared : Refers schema u (cleared schema s t p u r) .noAction v j ↔
    Refers schema u r .noAction v j := by
  unfold Refers cleared
  rw [zip_map_zip, List.mem_map]
  constructor
  · rintro ⟨⟨⟨w, rule⟩, ref⟩, hc, he⟩
    simp only [Prod.mk.injEq, KeyColumn.mk.injEq] at he
    obtain ⟨⟨rfl, rfl⟩, hf⟩ := he
    obtain ⟨rfl, -⟩ := Option.filter_eq_some_iff.mp hf
    exact hc
  · intro hc
    exact ⟨_, hc, by simp⟩

end Lemmas

section Purge
variable (schema : τ → List (KeyColumn τ))

/-- Cascades are one step deep, and what they take nothing else holds on to. -/
structure LeafCascades : Prop where
  noAction : ∀ u c d, c ∈ schema u → d ∈ schema u → c.onDelete = .cascade → d.onDelete ≠ .noAction
  target : ∀ u v c d, c ∈ schema u → c.onDelete = .cascade → d ∈ schema v → d.target = u → d.onDelete = .setNull

/-- Every table comes once, behind those that refer to it. -/
structure ChildrenFirst (order : List τ) : Prop where
  nodup : order.Nodup
  complete : ∀ t, t ∈ order
  before : ∀ pre t post, order = pre ++ t :: post → ∀ u c, c ∈ schema u → c.onDelete = .noAction →
    c.target = t → u = t ∨ u ∈ pre

/-- Delete from one table after another what a predicate on the columns names. -/
def purge [Fintype τ] (p : τ → γ → Bool) (order : List τ) (s : Relations τ γ) : Option (Relations τ γ) :=
  order.foldlM (fun s t => delete schema s t fun _ r => p t r.cols) s

/-- A row that stays refers to one that is to go. -/
def Crossed (p : τ → γ → Bool) (s : Relations τ γ) : Prop :=
  ∃ u k r v j q, (s u).get? k = some r ∧ p u r.cols = false ∧ Refers schema u r .noAction v j ∧
    (s v).get? j = some q ∧ p v q.cols = true

/-- What a purge of some tables leaves of the rows. -/
structure Purged (p : τ → γ → Bool) (done : List τ) (s s' : Relations τ γ) : Prop where
  back : ∀ u k r', (s' u).get? k = some r' → ∃ r, (s u).get? k = some r ∧ r'.cols = r.cols ∧
    (∀ v j, Refers schema u r' .noAction v j ↔ Refers schema u r .noAction v j) ∧ (u ∈ done → p u r.cols = false)
  keep : ∀ u k r, (s u).get? k = some r → (∀ c ∈ schema u, c.onDelete ≠ .cascade) →
    (u ∈ done → p u r.cols = false) → ∃ r', (s' u).get? k = some r' ∧ r'.cols = r.cols ∧
      ∀ v j, Refers schema u r' .noAction v j ↔ Refers schema u r .noAction v j

variable {schema} {p : τ → γ → Bool} {done : List τ} {s s₁ : Relations τ γ} {t : τ}

omit [DecidableEq τ] in
theorem Purged.refl (s : Relations τ γ) : Purged schema p [] s s where
  back _ _ r hr := ⟨r, hr, rfl, fun _ _ => Iff.rfl, fun h => by cases h⟩
  keep _ _ r hr _ _ := ⟨r, hr, rfl, fun _ _ => Iff.rfl⟩

/-- A statement of the purge is blocked exactly by what crosses. -/
theorem Purged.blocked_iff (h : Purged schema p done s s₁) (hleaf : LeafCascades schema) (ht : t ∉ done)
    (hbefore : ∀ u c, c ∈ schema u → c.onDelete = .noAction → c.target = t → u = t ∨ u ∈ done) :
    Blocked schema s₁ t (fun _ r => p t r.cols) ↔ ∃ u k r j q, (s u).get? k = some r ∧ p u r.cols = false ∧
      Refers schema u r .noAction t j ∧ (s t).get? j = some q ∧ p t q.cols = true := by
  rw [Relations.blocked_iff]
  constructor
  · rintro ⟨u, k, r₁, v, j, hr₁, hstay, href, hgone⟩
    obtain ⟨q₁, hq₁, hdoomed⟩ := gone_iff.mp hgone
    obtain ⟨r, hr, hcols, hrefs, hdone⟩ := h.back u k r₁ hr₁
    rcases doomed_iff.mp hdoomed with ⟨rfl, hpq⟩ | ⟨_, _, _, _, hcascade⟩
    · obtain ⟨q, hq, hqcols, -⟩ := h.back v j q₁ hq₁
      refine ⟨u, k, r, j, q, hr, ?_, (hrefs v j).mp href, hq, hqcols ▸ hpq⟩
      rcases hbefore u _ (refers_target href) rfl rfl with rfl | hu
      · by_contra hp
        rw [Bool.not_eq_false, ← hcols] at hp
        rw [doomed_iff.mpr (.inl ⟨rfl, hp⟩)] at hstay
        cases hstay
      · exact hdone hu
    · cases hleaf.target v u _ _ (refers_target hcascade) rfl (refers_target href) rfl
  · rintro ⟨u, k, r, j, q, hr, hp, href, hq, hpq⟩
    have hu : ∀ c ∈ schema u, c.onDelete ≠ .cascade := fun c hc hcas =>
      hleaf.noAction u c _ hc (refers_target href) hcas rfl
    have htc : ∀ c ∈ schema t, c.onDelete ≠ .cascade := fun c hc hcas => by
      cases hleaf.target t u c _ hc hcas (refers_target href) rfl
    obtain ⟨r₁, hr₁, hcols, hrefs⟩ := h.keep u k r hr hu fun _ => hp
    obtain ⟨q₁, hq₁, hqcols, -⟩ := h.keep t j q hq htc fun hd => absurd hd ht
    refine ⟨u, k, r₁, t, j, hr₁, ?_, (hrefs t j).mpr href, gone_iff.mpr ⟨q₁, hq₁, ?_⟩⟩
    · by_contra hdoomed
      rw [Bool.not_eq_false, doomed_iff] at hdoomed
      rcases hdoomed with ⟨rfl, hp₁⟩ | ⟨_, _, _, _, hcascade⟩
      · rw [hcols, hp] at hp₁
        cases hp₁
      · exact hu _ (refers_target hcascade) rfl
    · exact doomed_iff.mpr (.inl ⟨rfl, hqcols ▸ hpq⟩)

theorem Purged.step (h : Purged schema p done s s₁) (t : τ) :
    Purged schema p (done ++ [t]) s (survivors schema s₁ t fun _ r => p t r.cols) where
  back u k r' hr' := by
    obtain ⟨r₁, hr₁, hstay, rfl⟩ := get?_survivors.mp hr'
    obtain ⟨r, hr, hcols, hrefs, hdone⟩ := h.back u k r₁ hr₁
    refine ⟨r, hr, hcols, fun v j => refers_cleared.trans (hrefs v j), fun hu => ?_⟩
    rcases List.mem_append.mp hu with hu | hu
    · exact hdone hu
    · obtain rfl := List.mem_singleton.mp hu
      by_contra hp
      rw [Bool.not_eq_false, ← hcols] at hp
      rw [doomed_iff.mpr (.inl ⟨rfl, hp⟩)] at hstay
      cases hstay
  keep u k r hr hu hp := by
    obtain ⟨r₁, hr₁, hcols, hrefs⟩ := h.keep u k r hr hu fun hd => hp (List.mem_append_left _ hd)
    refine ⟨_, get?_survivors.mpr ⟨r₁, hr₁, ?_, rfl⟩, hcols, fun v j => refers_cleared.trans (hrefs v j)⟩
    by_contra hdoomed
    rw [Bool.not_eq_false, doomed_iff] at hdoomed
    rcases hdoomed with ⟨rfl, hp₁⟩ | ⟨_, _, _, _, hcascade⟩
    · rw [hcols, hp (List.mem_append_right _ (List.mem_singleton_self u))] at hp₁
      cases hp₁
    · exact hu _ (refers_target hcascade) rfl

variable [Fintype τ]

private theorem foldlM_purge (hleaf : LeafCascades schema) {order : List τ} (horder : ChildrenFirst schema order)
    (hcross : ¬ Crossed schema p s) (rest : List τ) (hsplit : order = done ++ rest)
    (h : Purged schema p done s s₁) :
    ∃ s', purge schema p rest s₁ = some s' ∧ Purged schema p order s s' := by
  induction rest generalizing done s₁ with
  | nil => exact ⟨s₁, rfl, by rwa [hsplit, List.append_nil]⟩
  | cons t rest ih =>
    have ht : t ∉ done := fun hd =>
      (List.nodup_append.mp (hsplit ▸ horder.nodup)).2.2 t hd t List.mem_cons_self rfl
    have hfree : ¬ Blocked schema s₁ t fun _ r => p t r.cols := by
      rw [h.blocked_iff hleaf ht (horder.before done t rest hsplit)]
      rintro ⟨u, k, r, j, q, hr, hp, href, hq, hpq⟩
      exact hcross ⟨u, k, r, t, j, q, hr, hp, href, hq, hpq⟩
    obtain ⟨s', hs', hpurged⟩ := ih (by rw [hsplit, List.append_assoc, List.singleton_append]) (h.step t)
    refine ⟨s', ?_, hpurged⟩
    rw [purge, List.foldlM_cons, delete, if_neg hfree]
    exact hs'

private theorem foldlM_crossed (hleaf : LeafCascades schema) {order : List τ} (horder : ChildrenFirst schema order)
    {u v : τ} {k j : ℕ} {r q : KeyedRow γ} (hr : (s u).get? k = some r) (hp : p u r.cols = false)
    (href : Refers schema u r .noAction v j) (hq : (s v).get? j = some q) (hpq : p v q.cols = true)
    (rest : List τ) (hsplit : order = done ++ rest) (hv : v ∉ done) (h : Purged schema p done s s₁) :
    purge schema p rest s₁ = none := by
  induction rest generalizing done s₁ with
  | nil => exact absurd (horder.complete v) (by rwa [hsplit, List.append_nil])
  | cons t rest ih =>
    have ht : t ∉ done := fun hd =>
      (List.nodup_append.mp (hsplit ▸ horder.nodup)).2.2 t hd t List.mem_cons_self rfl
    have hiff := h.blocked_iff hleaf ht (horder.before done t rest hsplit)
    rw [purge, List.foldlM_cons, delete]
    by_cases hb : Blocked schema s₁ t fun _ r => p t r.cols
    · rw [if_pos hb]
      rfl
    · rw [if_neg hb]
      refine ih (by rw [hsplit, List.append_assoc, List.singleton_append]) ?_ (h.step t)
      intro hmem
      rcases List.mem_append.mp hmem with hd | hd
      · exact hv hd
      · obtain rfl := List.mem_singleton.mp hd
        exact hb (hiff.mpr ⟨u, k, r, j, q, hr, hp, href, hq, hpq⟩)

/-- A purge that takes the children first fails exactly where a row that stays refers to one that goes. -/
theorem purge_eq_none_iff (hleaf : LeafCascades schema) {order : List τ} (horder : ChildrenFirst schema order) :
    purge schema p order s = none ↔ Crossed schema p s := by
  constructor
  · intro hnone
    by_contra hcross
    obtain ⟨s', hs', -⟩ := foldlM_purge hleaf horder hcross order rfl (.refl s)
    rw [hnone] at hs'
    cases hs'
  · rintro ⟨u, k, r, v, j, q, hr, hp, href, hq, hpq⟩
    exact foldlM_crossed hleaf horder hr hp href hq hpq order rfl (fun h => by cases h) (.refl s)

theorem purged_of_purge (hleaf : LeafCascades schema) {order : List τ} (horder : ChildrenFirst schema order)
    {s' : Relations τ γ} (h : purge schema p order s = some s') : Purged schema p order s s' := by
  have hcross : ¬ Crossed schema p s := by
    rw [← purge_eq_none_iff hleaf horder, h]
    exact Option.some_ne_none s'
  obtain ⟨s₂, hs₂, hpurged⟩ := foldlM_purge hleaf horder hcross order rfl (.refl s)
  obtain rfl := Option.some.inj (h.symm.trans hs₂)
  exact hpurged

end Purge

end Relations

end FinancialOs.Library
