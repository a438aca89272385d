import FinancialOs.Library.ReferentialDeletes

/-! A sweep deletes rows by key and content from one table after another and passes the tables by that have
nothing to delete. Exactly the marked rows go, with those that cascade from them, or nothing does. -/
namespace FinancialOs.Library.Relations
variable {τ γ : Type} [DecidableEq τ] {schema : τ → List (KeyColumn τ)}

theorem refers_cleared_of_ne {s : Relations τ γ} {t u v : τ} {p : ℕ → KeyedRow γ → Bool} {r : KeyedRow γ} {j : ℕ}
    {rule : OnDelete} (hrule : rule ≠ .setNull) :
    Refers schema u (cleared schema s t p u r) rule v j ↔ Refers schema u r rule v j := by
  have hzip : ∀ (l : List (KeyColumn τ)) (m : List (Option ℕ)) (f : KeyColumn τ × Option ℕ → Option ℕ),
      l.zip ((l.zip m).map f) = (l.zip m).map fun c => (c.1, f c) := by
    intro l m f
    induction l generalizing m with
    | nil => rfl
    | cons a l ih =>
      cases m with
      | nil => rfl
      | cons b m => exact congrArg _ (ih m)
  unfold Refers cleared
  rw [hzip, List.mem_map]
  constructor
  · rintro ⟨⟨⟨w, rule'⟩, ref⟩, hc, he⟩
    simp only [Prod.mk.injEq, KeyColumn.mk.injEq] at he
    obtain ⟨⟨rfl, rfl⟩, hf⟩ := he
    obtain ⟨rfl, -⟩ := Option.filter_eq_some_iff.mp hf
    exact hc
  · intro hc
    exact ⟨_, hc, by simp [hrule]⟩

section Sweeps
variable (schema)

/-- Delete from the tables of the list, in this order, what is marked there. -/
def sweep [Fintype τ] (active : τ → Bool) (p : τ → ℕ → γ → Bool) (order : List τ) (s : Relations τ γ) :
    Option (Relations τ γ) :=
  order.foldlM (fun s t => if active t then delete schema s t fun k r => p t k r.cols else some s) s

/-- The row is marked in one of the tables, or cascades from a row that is. -/
def Swept (p : τ → ℕ → γ → Bool) (done : List τ) (s : Relations τ γ) (u : τ) (k : ℕ) (r : KeyedRow γ) : Prop :=
  u ∈ done ∧ p u k r.cols = true ∨
    ∃ v j q, v ∈ done ∧ (s v).get? j = some q ∧ p v j q.cols = true ∧ Refers schema u r .cascade v j

/-- The same row, but for columns that were set null. -/
structure SameRow (u : τ) (r' r : KeyedRow γ) : Prop where
  cols : r'.cols = r.cols
  refers : ∀ rule v j, rule ≠ .setNull → (Refers schema u r' rule v j ↔ Refers schema u r rule v j)

/-- What a sweep of some tables leaves of the rows. -/
structure Sieved (p : τ → ℕ → γ → Bool) (done : List τ) (s s' : Relations τ γ) : Prop where
  back : ∀ u k r', (s' u).get? k = some r' →
    ∃ r, (s u).get? k = some r ∧ SameRow schema u r' r ∧ ¬ Swept schema p done s u k r
  keep : ∀ u k r, (s u).get? k = some r → ¬ Swept schema p done s u k r →
    ∃ r', (s' u).get? k = some r' ∧ SameRow schema u r' r

/-- A row that is not marked refers to one that is, and nothing happens about it. -/
def Held (p : τ → ℕ → γ → Bool) (s : Relations τ γ) (t : τ) : Prop :=
  ∃ u k r j q, (s u).get? k = some r ∧ p u k r.cols = false ∧ Refers schema u r .noAction t j ∧
    (s t).get? j = some q ∧ p t j q.cols = true

variable {schema} {p : τ → ℕ → γ → Bool} {active : τ → Bool} {done order : List τ} {s s₁ s' : Relations τ γ} {t : τ}

omit [DecidableEq τ] in
theorem Sieved.refl (s : Relations τ γ) : Sieved schema p [] s s := by
  have hnone : ∀ u k r, ¬ Swept schema p [] s u k r := by
    rintro u k r (⟨h, -⟩ | ⟨v, -, -, h, -⟩)
    · cases h
    · cases h
  exact ⟨fun u k r hr => ⟨r, hr, ⟨rfl, fun _ _ _ _ => Iff.rfl⟩, hnone u k r⟩,
    fun u k r hr _ => ⟨r, hr, ⟨rfl, fun _ _ _ _ => Iff.rfl⟩⟩⟩

omit [DecidableEq τ] in
theorem swept_append {u : τ} {k : ℕ} {r : KeyedRow γ} : Swept schema p (done ++ [t]) s u k r ↔
    Swept schema p done s u k r ∨ u = t ∧ p u k r.cols = true ∨
      ∃ j q, (s t).get? j = some q ∧ p t j q.cols = true ∧ Refers schema u r .cascade t j := by
  constructor
  · rintro (⟨hu, hp⟩ | ⟨v, j, q, hv, h⟩)
    · rcases List.mem_append.mp hu with hu | hu
      · exact .inl (.inl ⟨hu, hp⟩)
      · exact .inr (.inl ⟨List.mem_singleton.mp hu, hp⟩)
    · rcases List.mem_append.mp hv with hv | hv
      · exact .inl (.inr ⟨v, j, q, hv, h⟩)
      · obtain rfl := List.mem_singleton.mp hv
        exact .inr (.inr ⟨j, q, h⟩)
  · rintro ((⟨hu, hp⟩ | ⟨v, j, q, hv, h⟩) | ⟨rfl, hp⟩ | ⟨j, q, h⟩)
    · exact .inl ⟨List.mem_append_left _ hu, hp⟩
    · exact .inr ⟨v, j, q, List.mem_append_left _ hv, h⟩
    · exact .inl ⟨List.mem_append_right _ (List.mem_singleton_self u), hp⟩
    · exact .inr ⟨t, j, q, List.mem_append_right _ (List.mem_singleton_self t), h⟩

omit [DecidableEq τ] in
/-- A row of a table whose rows cascade from nothing is still there as long as its table was not swept. -/
theorem Sieved.keep_of_not_mem (h : Sieved schema p done s s₁) (ht : t ∉ done)
    (htc : ∀ c ∈ schema t, c.onDelete ≠ .cascade) {k : ℕ} {r : KeyedRow γ} (hr : (s t).get? k = some r) :
    ∃ r', (s₁ t).get? k = some r' ∧ SameRow schema t r' r := by
  refine h.keep t k r hr ?_
  rintro (⟨hd, -⟩ | ⟨v, j, q, -, -, -, href⟩)
  · exact ht hd
  · exact htc _ (refers_target href) rfl

/-- Deleting from a table that was not swept takes exactly what is marked in it, with what cascades. -/
theorem Sieved.doomed_iff (h : Sieved schema p done s s₁) (hleaf : LeafCascades schema) (ht : t ∉ done) {u : τ} {k : ℕ}
    {r₁ r : KeyedRow γ} (hsame : SameRow schema u r₁ r) :
    doomed schema s₁ t (fun k r => p t k r.cols) u k r₁ = true ↔ u = t ∧ p u k r.cols = true ∨
      ∃ j q, (s t).get? j = some q ∧ p t j q.cols = true ∧ Refers schema u r .cascade t j := by
  rw [Relations.doomed_iff]
  constructor
  · rintro (⟨rfl, hp⟩ | ⟨j, q₁, hq₁, hp, href⟩)
    · exact .inl ⟨rfl, hsame.cols ▸ hp⟩
    · obtain ⟨q, hq, hqsame, -⟩ := h.back t j q₁ hq₁
      exact .inr ⟨j, q, hq, hqsame.cols ▸ hp, (hsame.refers .cascade t j nofun).mp href⟩
  · rintro (⟨rfl, hp⟩ | ⟨j, q, hq, hp, href⟩)
    · exact .inl ⟨rfl, by rwa [hsame.cols]⟩
    · have htc : ∀ c ∈ schema t, c.onDelete ≠ .cascade := fun c hc hcas => by
        cases hleaf.target t u c _ hc hcas (refers_target href) rfl
      obtain ⟨q₁, hq₁, hqsame⟩ := h.keep_of_not_mem ht htc hq
      exact .inr ⟨j, q₁, hq₁, by rwa [hqsame.cols], (hsame.refers .cascade t j nofun).mpr href⟩

theorem Sieved.step (h : Sieved schema p done s s₁) (hleaf : LeafCascades schema) (ht : t ∉ done) :
    Sieved schema p (done ++ [t]) s (survivors schema s₁ t fun k r => p t k r.cols) where
  back u k r' hr' := by
    obtain ⟨r₁, hr₁, hstay, rfl⟩ := get?_survivors.mp hr'
    obtain ⟨r, hr, hsame, hnot⟩ := h.back u k r₁ hr₁
    refine ⟨r, hr, ⟨hsame.cols, fun rule v j hrule =>
      (refers_cleared_of_ne hrule).trans (hsame.refers rule v j hrule)⟩, fun hswept => ?_⟩
    rcases swept_append.mp hswept with hswept | hswept
    · exact hnot hswept
    · rw [(h.doomed_iff hleaf ht hsame).mpr hswept] at hstay
      cases hstay
  keep u k r hr hnot := by
    rw [swept_append, not_or] at hnot
    obtain ⟨r₁, hr₁, hsame⟩ := h.keep u k r hr hnot.1
    refine ⟨_, get?_survivors.mpr ⟨r₁, hr₁, ?_, rfl⟩, hsame.cols, fun rule v j hrule =>
      (refers_cleared_of_ne hrule).trans (hsame.refers rule v j hrule)⟩
    by_contra hdoomed
    exact hnot.2 ((h.doomed_iff hleaf ht hsame).mp (Bool.not_eq_false _ ▸ hdoomed))

omit [DecidableEq τ] in
/-- A table without marked rows can be passed by. -/
theorem Sieved.skip (h : Sieved schema p done s s₁) (hp : ∀ k c, p t k c = false) :
    Sieved schema p (done ++ [t]) s s₁ := by
  have hiff : ∀ u k r, Swept schema p (done ++ [t]) s u k r ↔ Swept schema p done s u k r := by
    intro u k r
    rw [swept_append]
    refine or_iff_left ?_
    rintro (⟨rfl, hpu⟩ | ⟨j, q, -, hpq, -⟩)
    · rw [hp] at hpu
      cases hpu
    · rw [hp] at hpq
      cases hpq
  refine ⟨fun u k r' hr' => ?_, fun u k r hr hnot => h.keep u k r hr fun hs => hnot ((hiff u k r).mpr hs)⟩
  obtain ⟨r, hr, hsame, hnot⟩ := h.back u k r' hr'
  exact ⟨r, hr, hsame, fun hs => hnot ((hiff u k r).mp hs)⟩

/-- A statement of the sweep is blocked exactly where a row that is not marked holds on to one that is. -/
theorem Sieved.blocked_iff (h : Sieved schema p done s s₁) (hleaf : LeafCascades schema) (ht : t ∉ done)
    (hbefore : ∀ u c, c ∈ schema u → c.onDelete = .noAction → c.target = t →
      u = t ∨ u ∈ done ∨ ∀ k c, p u k c = false) :
    Blocked schema s₁ t (fun k r => p t k r.cols) ↔ Held schema p s t := by
  rw [Relations.blocked_iff]
  constructor
  · rintro ⟨u, k, r₁, v, j, hr₁, hstay, href, hgone⟩
    obtain ⟨q₁, hq₁, hdoomed⟩ := gone_iff.mp hgone
    obtain ⟨r, hr, hsame, hnot⟩ := h.back u k r₁ hr₁
    obtain ⟨q, hq, hqsame, -⟩ := h.back v j q₁ hq₁
    rcases (h.doomed_iff hleaf ht hqsame).mp hdoomed with ⟨rfl, hpq⟩ | ⟨_, _, _, _, hcascade⟩
    · refine ⟨u, k, r, j, q, hr, ?_, (hsame.refers .noAction v j nofun).mp href, hq, hpq⟩
      by_contra hp
      rw [Bool.not_eq_false] at hp
      rcases hbefore u _ (refers_target href) rfl rfl with rfl | hu | hu
      · rw [(h.doomed_iff hleaf ht hsame).mpr (.inl ⟨rfl, hp⟩)] at hstay
        cases hstay
      · exact hnot (.inl ⟨hu, hp⟩)
      · rw [hu] at hp
        cases hp
    · cases hleaf.target v u _ _ (refers_target hcascade) rfl (refers_target href) rfl
  · rintro ⟨u, k, r, j, q, hr, hp, href, hq, hpq⟩
    have hu : ∀ c ∈ schema u, c.onDelete ≠ .cascade := fun c hc hcas =>
      hleaf.noAction u c _ hc (refers_target href) hcas rfl
    have htc : ∀ c ∈ schema t, c.onDelete ≠ .cascade := fun c hc hcas => by
      cases hleaf.target t u c _ hc hcas (refers_target href) rfl
    obtain ⟨q₁, hq₁, hqsame⟩ := h.keep_of_not_mem ht htc hq
    obtain ⟨r₁, hr₁, hsame⟩ := h.keep u k r hr (by
      rintro (⟨-, hp'⟩ | ⟨v, i, q', -, -, -, hcas⟩)
      · rw [hp] at hp'
        cases hp'
      · exact hu _ (refers_target hcas) rfl)
    refine ⟨u, k, r₁, t, j, hr₁, ?_, (hsame.refers .noAction t j nofun).mpr href,
      gone_iff.mpr ⟨q₁, hq₁, (h.doomed_iff hleaf ht hqsame).mpr (.inl ⟨rfl, hpq⟩)⟩⟩
    by_contra hdoomed
    rw [Bool.not_eq_false, h.doomed_iff hleaf ht hsame] at hdoomed
    rcases hdoomed with ⟨-, hp'⟩ | ⟨_, _, _, _, hcas⟩
    · rw [hp] at hp'
      cases hp'
    · exact hu _ (refers_target hcas) rfl

/-- Every table comes once, behind those of the list that refer to it. -/
structure SweepOrder (schema : τ → List (KeyColumn τ)) (order : List τ) : Prop where
  nodup : order.Nodup
  before : ∀ pre t post, order = pre ++ t :: post → ∀ u c, c ∈ schema u → c.onDelete = .noAction →
    c.target = t → u = t ∨ u ∈ pre ∨ u ∉ order

variable [Fintype τ]

private theorem foldlM_sweep (hleaf : LeafCascades schema) (horder : SweepOrder schema order)
    (hactive : ∀ t, active t = false → ∀ k c, p t k c = false) (hidle : ∀ t, t ∉ order → ∀ k c, p t k c = false)
    (rest : List τ) (hsplit : order = done ++ rest) (h : Sieved schema p done s s₁) :
    (sweep schema active p rest s₁ = none ↔ ∃ t ∈ rest, Held schema p s t) ∧
      ∀ s', sweep schema active p rest s₁ = some s' → Sieved schema p order s s' := by
  induction rest generalizing done s₁ with
  | nil =>
    refine ⟨iff_of_false (Option.some_ne_none _) (by simp), fun s' hs' => ?_⟩
    obtain rfl := Option.some.inj hs'
    rwa [hsplit, List.append_nil]
  | cons t rest ih =>
    have ht : t ∉ done := fun hd =>
      (List.nodup_append.mp (hsplit ▸ horder.nodup)).2.2 t hd t List.mem_cons_self rfl
    have hrest : order = (done ++ [t]) ++ rest := by rw [hsplit, List.append_assoc, List.singleton_append]
    rw [sweep, List.foldlM_cons]
    cases ha : active t with
    | false =>
      have hfree : ¬ Held schema p s t := by
        rintro ⟨u, k, r, j, q, -, -, -, -, hp⟩
        rw [hactive t ha] at hp
        cases hp
      obtain ⟨hnone, hsome⟩ := ih hrest (h.skip (hactive t ha))
      refine ⟨hnone.trans ?_, hsome⟩
      rw [List.exists_mem_cons_iff, or_iff_right hfree]
    | true =>
      have hiff := h.blocked_iff hleaf ht fun u c hc hrule htarget =>
        (horder.before done t rest hsplit u c hc hrule htarget).imp_right (.imp_right (hidle u))
      rw [if_pos rfl, delete]
      by_cases hb : Blocked schema s₁ t fun k r => p t k r.cols
      · rw [if_pos hb]
        exact ⟨iff_of_true rfl ⟨t, List.mem_cons_self, hiff.mp hb⟩, fun s' hs' => by cases hs'⟩
      · rw [if_neg hb]
        obtain ⟨hnone, hsome⟩ := ih hrest (h.step hleaf ht)
        refine ⟨hnone.trans ?_, hsome⟩
        rw [List.exists_mem_cons_iff, or_iff_right (mt hiff.mpr hb)]

/-- The whole sweep. -/
theorem sweep_spec (hleaf : LeafCascades schema) (horder : SweepOrder schema order)
    (hactive : ∀ t, active t = false → ∀ k c, p t k c = false) (hidle : ∀ t, t ∉ order → ∀ k c, p t k c = false)
    (s : Relations τ γ) :
    (sweep schema active p order s = none ↔ ∃ t ∈ order, Held schema p s t) ∧
      ∀ s', sweep schema active p order s = some s' → Sieved schema p order s s' :=
  foldlM_sweep hleaf horder hactive hidle order rfl (.refl s)

end Sweeps

end FinancialOs.Library.Relations
