import FinancialOs.Library.TransitionRuns
import FinancialOs.Routers.Capacity
import Mathlib.Algebra.Order.BigOperators.Group.List

/-! The slots of the slow paths over every run of requests: none leaks, none is given twice, and what the slow
paths take leaves the fast endpoints their reserve of the database's pool. -/
namespace FinancialOs.Guarantees
open Library Routers

/-- The slot of a semaphore that a request holds. -/
def tuttugu (sem : ℕ) : Yer → ℤ
  | .iceride _ s => if s = sem then 1 else 0
  | _ => 0

/-- A request inside a path. -/
def yolda (ad : YavasYol) : Yer → ℤ
  | .iceride a _ => if a = ad then 1 else 0
  | _ => 0

def alinanSlot (d : YavasYolDurumu) (sem : ℕ) : ℤ := d.istekler.total (tuttugu sem)

def icerideki (d : YavasYolDurumu) (ad : YavasYol) : ℤ := d.istekler.total (yolda ad)

/-- The request waits for, or holds, a slot of the semaphore. -/
def Bagli (ad : YavasYol) (sem : ℕ) (y : Yer) : Prop := y = .bekliyor ad sem ∨ y = .iceride ad sem

structure SlotlarTam (d : YavasYolDurumu) : Prop where
  hesap : ∀ sem s, d.semaforlar.get? sem = some s → s.deger + alinanSlot d sem = s.tavan ∧ 0 ≤ s.deger
  bagli : ∀ i y ad sem, d.istekler.get? i = some y → Bagli ad sem y → ∃ s, d.semaforlar.get? sem = some s
  guncel : ∀ ad sem t, d.guncel ad = some (sem, t) → ∃ s, d.semaforlar.get? sem = some s ∧ s.tavan = t
  tasmaz : d.tasma = 0

section Slots
variable {d : YavasYolDurumu} {ad : YavasYol} {o : KapasiteOrtami} {i sem : ℕ}

theorem tuttugu_nonneg (y : Yer) : 0 ≤ tuttugu sem y := by
  cases y with
  | iceride a s =>
    rw [tuttugu]
    split_ifs <;> decide
  | bekliyor a s => exact le_rfl
  | kapasiteDolu a t => exact le_rfl
  | bitti => exact le_rfl

theorem alinan_eq_zero (h : ∀ i ad, d.istekler.get? i ≠ some (.iceride ad sem)) : alinanSlot d sem = 0 := by
  calc
    _ = d.istekler.total fun _ => (0 : ℤ) := Table.total_congr fun i y hy => by
      cases y with
      | iceride a s => exact if_neg fun hs : s = sem => h i a (hs ▸ hy)
      | bekliyor a s => rfl
      | kapasiteDolu a t => rfl
      | bitti => rfl
    _ = 0 := List.sum_eq_zero fun x hx => by
      obtain ⟨r, -, rfl⟩ := List.mem_map.mp hx
      rfl

theorem bos_yeni (h : SlotlarTam d) : alinanSlot d d.semaforlar.freshKey = 0 := by
  refine alinan_eq_zero fun i ad hy => ?_
  obtain ⟨s, hs⟩ := h.bagli i _ ad _ hy (.inr rfl)
  rw [Table.get?_freshKey] at hs
  cases hs

theorem tavan_pos (o : KapasiteOrtami) (ad : YavasYol) : 0 < tavan o ad := lt_of_lt_of_le one_pos (le_max_left _ _)

/-- What `_semafor` leaves behind: the semaphore of the path, with the ceiling of now. -/
structure Hazir (d : YavasYolDurumu) (ad : YavasYol) (r : ℕ × YavasYolDurumu) : Prop where
  tam : SlotlarTam r.2
  istekler : r.2.istekler = d.istekler
  ortam : r.2.ortam = d.ortam
  guncel : r.2.guncel = Function.update d.guncel ad (some (r.1, tavan d.ortam ad))
  eski : ∀ sem s, d.semaforlar.get? sem = some s → r.2.semaforlar.get? sem = some s

theorem hazir_kurulan (h : SlotlarTam d) (ad : YavasYol) : Hazir d ad (d.semaforlar.freshKey,
    { d with
      semaforlar := d.semaforlar.push ⟨tavan d.ortam ad, tavan d.ortam ad⟩
      guncel := Function.update d.guncel ad (some (d.semaforlar.freshKey, tavan d.ortam ad)) }) := by
  have heski : ∀ sem s, d.semaforlar.get? sem = some s →
      (d.semaforlar.push ⟨tavan d.ortam ad, tavan d.ortam ad⟩).get? sem = some s := by
    intro sem s hs
    rw [Table.get?_push, if_neg, hs]
    rintro rfl
    rw [Table.get?_freshKey] at hs
    cases hs
  refine ⟨⟨fun sem s hs => ?_, fun i y a sem hy hb => ?_, fun a sem t ha => ?_, h.tasmaz⟩, rfl, rfl, rfl, heski⟩
  · rw [Table.get?_push] at hs
    split_ifs at hs with hsem
    · obtain rfl := Option.some.inj hs
      have hbos : alinanSlot d sem = 0 := hsem ▸ bos_yeni h
      refine ⟨?_, (tavan_pos d.ortam ad).le⟩
      change tavan d.ortam ad + alinanSlot d sem = tavan d.ortam ad
      rw [hbos, add_zero]
    · exact h.hesap sem s hs
  · obtain ⟨s, hs⟩ := h.bagli i y a sem hy hb
    exact ⟨s, heski sem s hs⟩
  · change Function.update d.guncel ad (some (d.semaforlar.freshKey, tavan d.ortam ad)) a = some (sem, t) at ha
    by_cases hne : a = ad
    · subst hne
      rw [Function.update_self] at ha
      obtain ⟨rfl, rfl⟩ := Prod.mk.inj (Option.some.inj ha)
      exact ⟨_, by rw [Table.get?_push, if_pos rfl], rfl⟩
    · rw [Function.update_of_ne hne] at ha
      obtain ⟨s, hs, ht⟩ := h.guncel a sem t ha
      exact ⟨s, heski sem s hs, ht⟩

/-- The semaphore of a path is kept, or made with all its slots free. -/
theorem semafor_hazir (h : SlotlarTam d) (ad : YavasYol) : Hazir d ad (semafor d ad) := by
  rw [semafor]
  split
  · exact hazir_kurulan h ad
  · next sem kurulu hguncel =>
    split_ifs with ht
    · refine ⟨h, rfl, rfl, ?_, fun _ _ hs => hs⟩
      rw [← ht, ← hguncel, Function.update_eq_self]
    · exact hazir_kurulan h ad

theorem Hazir.mevcut {r : ℕ × YavasYolDurumu} (h : Hazir d ad r) :
    ∃ s, r.2.semaforlar.get? r.1 = some s ∧ s.tavan = tavan d.ortam ad := by
  apply h.tam.guncel ad
  rw [h.guncel, Function.update_self]

/-! ### What one step does to the slots -/

theorem tam_ilk (o : KapasiteOrtami) : SlotlarTam (.ilk o) :=
  ⟨fun _ _ hs => (nomatch hs), fun _ _ _ _ hy => (nomatch hy), fun _ _ _ hg => (nomatch hg), rfl⟩

/-- A new request takes no slot yet. -/
theorem tam_gel (h : SlotlarTam d) (ad : YavasYol) : SlotlarTam (yavasYol d (.gel ad)) := by
  have hazir := semafor_hazir h ad
  refine ⟨fun sem s hs => ?_, fun i y a sem hy hb => ?_, hazir.tam.guncel, hazir.tam.tasmaz⟩
  · have hsame : alinanSlot (yavasYol d (.gel ad)) sem = alinanSlot (semafor d ad).2 sem := by
      rw [alinanSlot, alinanSlot, yavasYol]
      exact (Table.total_push _ _ _).trans (add_zero _)
    rw [hsame]
    exact hazir.tam.hesap sem s hs
  · change ((semafor d ad).2.istekler.push (.bekliyor ad (semafor d ad).1)).get? i = some y at hy
    rw [Table.get?_push] at hy
    split_ifs at hy
    · obtain rfl := Option.some.inj hy
      rcases hb with hb | hb
      · obtain ⟨rfl, rfl⟩ := Yer.bekliyor.inj hb
        obtain ⟨s, hs, -⟩ := hazir.mevcut
        exact ⟨s, hs⟩
      · cases hb
    · exact hazir.tam.bagli i y a sem hy hb

/-- A request moves, and its semaphore counts it. -/
theorem tam_tasi {s : Semafor} {f : Semafor → Semafor} {y y' : Yer} (h : SlotlarTam d)
    (hy : d.istekler.get? i = some y) (hs : d.semaforlar.get? sem = some s) (htavan : (f s).tavan = s.tavan)
    (hbos : 0 ≤ (f s).deger) (hkendi : (f s).deger + tuttugu sem y' = s.deger + tuttugu sem y)
    (hdiger : ∀ other, other ≠ sem → tuttugu other y' = tuttugu other y)
    (hbagli : ∀ a other, Bagli a other y' → ∃ s, d.semaforlar.get? other = some s) :
    SlotlarTam { d with
      semaforlar := d.semaforlar.modify sem f
      istekler := d.istekler.modify i fun _ => y' } := by
  have hsayi : ∀ other, (d.istekler.modify i fun _ => y').total (tuttugu other) =
      alinanSlot d other - tuttugu other y + tuttugu other y' := fun other => Table.total_modify hy _ _
  have hvar : ∀ other r, d.semaforlar.get? other = some r →
      ∃ r', (d.semaforlar.modify sem f).get? other = some r' ∧ r'.tavan = r.tavan := by
    intro other r hr
    rw [Table.get?_modify]
    split_ifs with hother
    · subst hother
      obtain rfl := Option.some.inj (hs.symm.trans hr)
      exact ⟨f s, by rw [hr]; rfl, htavan⟩
    · exact ⟨r, hr, rfl⟩
  refine ⟨fun other r hr => ?_, fun j z a other hz hb => ?_, fun a other t ha => ?_, h.tasmaz⟩
  · change r.deger + (d.istekler.modify i fun _ => y').total (tuttugu other) = r.tavan ∧ _
    rw [hsayi]
    change (d.semaforlar.modify sem f).get? other = some r at hr
    rw [Table.get?_modify] at hr
    split_ifs at hr with hother
    · subst hother
      rw [hs] at hr
      obtain rfl : f s = r := Option.some.inj hr
      have hhesap := (h.hesap other s hs).1
      exact ⟨by rw [htavan]; omega, hbos⟩
    · have hhesap := h.hesap other r hr
      rw [hdiger other hother]
      exact ⟨by omega, hhesap.2⟩
  · have hz : (d.istekler.modify i fun _ => y').get? j = some z := hz
    have hold : ∃ r, d.semaforlar.get? other = some r := by
      rw [Table.get?_modify] at hz
      split_ifs at hz with hj
      · obtain ⟨_, -, rfl⟩ := Option.map_eq_some_iff.mp hz
        exact hbagli a other hb
      · exact h.bagli j z a other hz hb
    obtain ⟨r, hr⟩ := hold
    obtain ⟨r', hr', -⟩ := hvar other r hr
    exact ⟨r', hr'⟩
  · obtain ⟨r, hr, ht⟩ := h.guncel a other t ha
    obtain ⟨r', hr', htavan'⟩ := hvar other r hr
    exact ⟨r', hr', htavan'.trans ht⟩

/-- A request that stays outside of the semaphores moves without them. -/
theorem tam_yerinde {y y' : Yer} (h : SlotlarTam d) (hy : d.istekler.get? i = some y)
    (hayni : ∀ sem, tuttugu sem y' = tuttugu sem y)
    (hbagli : ∀ a sem, Bagli a sem y' → ∃ s, d.semaforlar.get? sem = some s) :
    SlotlarTam { d with istekler := d.istekler.modify i fun _ => y' } := by
  refine ⟨fun sem s hs => ?_, fun j z a sem hz hb => ?_, h.guncel, h.tasmaz⟩
  · have hsayi : (d.istekler.modify i fun _ => y').total (tuttugu sem) = alinanSlot d sem := by
      rw [Table.total_modify hy, hayni, sub_add_cancel]
      rfl
    change s.deger + (d.istekler.modify i fun _ => y').total (tuttugu sem) = s.tavan ∧ _
    rw [hsayi]
    exact h.hesap sem s hs
  · have hz : (d.istekler.modify i fun _ => y').get? j = some z := hz
    rw [Table.get?_modify] at hz
    split_ifs at hz with hj
    · obtain ⟨_, -, rfl⟩ := Option.map_eq_some_iff.mp hz
      exact hbagli a sem hb
    · exact h.bagli j z a sem hz hb

theorem slotAl_eq {s : Semafor} (hy : d.istekler.get? i = some (.bekliyor ad sem)) (hs : d.semaforlar.get? sem = some s) :
    slotAl d i = if 0 < s.deger then
      { d with
        semaforlar := d.semaforlar.modify sem fun s => { s with deger := s.deger - 1 }
        istekler := d.istekler.modify i fun _ => .iceride ad sem }
      else d := by
  rw [slotAl, hy]
  dsimp only
  rw [hs]

theorem reddet_eq {s : Semafor} (hy : d.istekler.get? i = some (.bekliyor ad sem)) (hs : d.semaforlar.get? sem = some s) :
    reddet d i = if 0 < s.deger then d
      else { d with istekler := d.istekler.modify i fun _ => .kapasiteDolu ad (tavan d.ortam ad) } := by
  rw [reddet, hy]
  dsimp only
  rw [hs]

theorem slotBirak_eq {s : Semafor} (hy : d.istekler.get? i = some (.iceride ad sem))
    (hs : d.semaforlar.get? sem = some s) (hdolu : s.deger < s.tavan) :
    slotBirak d i = { d with
      semaforlar := d.semaforlar.modify sem fun s => { s with deger := s.deger + 1 }
      istekler := d.istekler.modify i fun _ => .bitti } := by
  rw [slotBirak, hy]
  dsimp only
  rw [hs]
  dsimp only
  rw [if_pos hdolu]

theorem tam_slotAl (h : SlotlarTam d) (i : ℕ) : SlotlarTam (slotAl d i) := by
  cases hy : d.istekler.get? i with
  | none =>
    rw [slotAl, hy]
    exact h
  | some y =>
    cases y with
    | bekliyor ad sem =>
      obtain ⟨s, hs⟩ := h.bagli i _ ad sem hy (.inl rfl)
      rw [slotAl_eq hy hs]
      split_ifs with hbos
      · refine tam_tasi h hy hs rfl (Int.le_sub_one_of_lt hbos) ?_ (fun other hne => if_neg hne.symm) ?_
        · change s.deger - 1 + (if sem = sem then 1 else 0) = s.deger + 0
          rw [if_pos rfl, sub_add_cancel, add_zero]
        · rintro a other (hb | hb)
          · cases hb
          · obtain ⟨rfl, rfl⟩ := Yer.iceride.inj hb
            exact ⟨s, hs⟩
      · exact h
    | iceride ad sem =>
      rw [slotAl, hy]
      exact h
    | kapasiteDolu ad t =>
      rw [slotAl, hy]
      exact h
    | bitti =>
      rw [slotAl, hy]
      exact h

theorem tam_reddet (h : SlotlarTam d) (i : ℕ) : SlotlarTam (reddet d i) := by
  cases hy : d.istekler.get? i with
  | none =>
    rw [reddet, hy]
    exact h
  | some y =>
    cases y with
    | bekliyor ad sem =>
      obtain ⟨s, hs⟩ := h.bagli i _ ad sem hy (.inl rfl)
      rw [reddet_eq hy hs]
      split_ifs with hbos
      · exact h
      · exact tam_yerinde h hy (fun _ => rfl) (by rintro a other (hb | hb) <;> cases hb)
    | iceride ad sem =>
      rw [reddet, hy]
      exact h
    | kapasiteDolu ad t =>
      rw [reddet, hy]
      exact h
    | bitti =>
      rw [reddet, hy]
      exact h

/-- A semaphore that a request is inside of has room for its slot. -/
theorem deger_lt (h : SlotlarTam d) {s : Semafor} (hy : d.istekler.get? i = some (.iceride ad sem))
    (hs : d.semaforlar.get? sem = some s) : s.deger < s.tavan := by
  have hhesap := (h.hesap sem s hs).1
  have hpos : 0 < alinanSlot d sem := by
    have hcikan := Table.total_modify hy (fun _ => Yer.bitti) (tuttugu sem)
    have hnonneg : 0 ≤ (d.istekler.modify i fun _ => Yer.bitti).total (tuttugu sem) := List.sum_nonneg fun x hx => by
      obtain ⟨r, -, rfl⟩ := List.mem_map.mp hx
      exact tuttugu_nonneg r.2
    have hbir : tuttugu sem (.iceride ad sem) = 1 := if_pos rfl
    have hsifir : tuttugu sem .bitti = 0 := rfl
    rw [hbir, hsifir, add_zero] at hcikan
    rw [alinanSlot]
    omega
  omega

theorem tam_slotBirak (h : SlotlarTam d) (i : ℕ) : SlotlarTam (slotBirak d i) := by
  cases hy : d.istekler.get? i with
  | none =>
    rw [slotBirak, hy]
    exact h
  | some y =>
    cases y with
    | iceride ad sem =>
      obtain ⟨s, hs⟩ := h.bagli i _ ad sem hy (.inr rfl)
      rw [slotBirak_eq hy hs (deger_lt h hy hs)]
      have hbos := (h.hesap sem s hs).2
      refine tam_tasi h hy hs rfl (Int.add_nonneg hbos Int.one_nonneg) ?_ (fun other hne => (if_neg hne.symm).symm) ?_
      · change s.deger + 1 + 0 = s.deger + (if sem = sem then 1 else 0)
        rw [if_pos rfl, add_zero]
      · rintro a other (hb | hb) <;> cases hb
    | bekliyor ad sem =>
      rw [slotBirak, hy]
      exact h
    | kapasiteDolu ad t =>
      rw [slotBirak, hy]
      exact h
    | bitti =>
      rw [slotBirak, hy]
      exact h

theorem tam_yavasYol (d : YavasYolDurumu) (e : YavasYolOlayi) (h : SlotlarTam d) : SlotlarTam (yavasYol d e) := by
  cases e with
  | ortam o => exact ⟨h.hesap, h.bagli, h.guncel, h.tasmaz⟩
  | gel ad => exact tam_gel h ad
  | al i => exact tam_slotAl h i
  | reddet i => exact tam_reddet h i
  | bitir i => exact tam_slotBirak h i

end Slots

/-- Over every run, with the environment changing as it may: no release is one too many, a waiting request gets a
slot exactly while fewer of them are taken than there are, is refused exactly when all are, and once nobody is
inside any more every slot of every path is free. -/
theorem slots_never_leak (o : KapasiteOrtami) (olaylar : List YavasYolOlayi) :
    let d := run yavasYol (.ilk o) olaylar
    d.tasma = 0 ∧
    (∀ i ad sem, d.istekler.get? i = some (.bekliyor ad sem) → ∃ s, d.semaforlar.get? sem = some s ∧
      ((yavasYol d (.al i)).istekler.get? i = some (.iceride ad sem) ↔ alinanSlot d sem < s.tavan) ∧
      ((yavasYol d (.reddet i)).istekler.get? i = some (.kapasiteDolu ad (tavan d.ortam ad)) ↔
        alinanSlot d sem = s.tavan)) ∧
    ((∀ i ad sem, d.istekler.get? i ≠ some (.iceride ad sem)) → ∀ ad, bosSlot d ad = tavan d.ortam ad) := by
  intro d
  have htam : SlotlarTam d := run_invariant_all tam_yavasYol olaylar (tam_ilk o)
  refine ⟨htam.tasmaz, fun i ad sem hy => ?_, fun hdisarida ad => ?_⟩
  · obtain ⟨s, hs⟩ := htam.bagli i _ ad sem hy (.inl rfl)
    obtain ⟨hhesap, hbos⟩ := htam.hesap sem s hs
    have hyerinde : d.istekler.get? i ≠ some (.iceride ad sem) ∧
        d.istekler.get? i ≠ some (.kapasiteDolu ad (tavan d.ortam ad)) := by
      rw [hy]
      exact ⟨by simp, by simp⟩
    refine ⟨s, hs, ?_, ?_⟩
    · rw [yavasYol, slotAl_eq hy hs]
      split_ifs with hvar
      · refine iff_of_true ?_ (by omega)
        rw [Table.get?_modify, if_pos rfl, hy]
        rfl
      · exact iff_of_false hyerinde.1 (by omega)
    · rw [yavasYol, reddet_eq hy hs]
      split_ifs with hvar
      · exact iff_of_false hyerinde.2 (by omega)
      · refine iff_of_true ?_ (by omega)
        rw [Table.get?_modify, if_pos rfl, hy]
        rfl
  · have hazir := semafor_hazir htam ad
    obtain ⟨s, hs, htavan⟩ := hazir.mevcut
    have hhesap := (hazir.tam.hesap _ s hs).1
    have hsifir : alinanSlot (semafor d ad).2 (semafor d ad).1 = 0 := alinan_eq_zero fun i a hy => by
      rw [hazir.istekler] at hy
      exact hdisarida i a _ hy
    change (((semafor d ad).2.semaforlar.get? (semafor d ad).1).map Semafor.deger).getD 0 = _
    rw [hs]
    change s.deger = _
    omega

/-- Every request of a path stands at the one semaphore that the path has under this environment. -/
structure Sabit (o : KapasiteOrtami) (d : YavasYolDurumu) : Prop where
  ortam : d.ortam = o
  guncel : ∀ ad sem t, d.guncel ad = some (sem, t) → t = tavan o ad
  tek : ∀ i y ad sem, d.istekler.get? i = some y → Bagli ad sem y → d.guncel ad = some (sem, tavan o ad)

section Reserve
variable {o : KapasiteOrtami} {d : YavasYolDurumu} {ad : YavasYol} {i sem : ℕ}

theorem sabit_ilk (o : KapasiteOrtami) : Sabit o (.ilk o) :=
  ⟨rfl, fun _ _ _ hg => (nomatch hg), fun _ _ _ _ hy => (nomatch hy)⟩

/-- A request joins at the semaphore of its path, old or new. -/
theorem sabit_gel (h : Sabit o d) (ad : YavasYol) : Sabit o (yavasYol d (.gel ad)) := by
  have hkatil : ∀ e : YavasYolDurumu, ∀ sem, Sabit o e → e.guncel ad = some (sem, tavan o ad) →
      Sabit o { e with istekler := e.istekler.push (.bekliyor ad sem) } := by
    intro e sem he hg
    refine ⟨he.ortam, he.guncel, fun i y a s hy hb => ?_⟩
    have hy : (e.istekler.push (.bekliyor ad sem)).get? i = some y := hy
    rw [Table.get?_push] at hy
    split_ifs at hy
    · obtain rfl := Option.some.inj hy
      rcases hb with hb | hb
      · obtain ⟨rfl, rfl⟩ := Yer.bekliyor.inj hb
        exact hg
      · cases hb
    · exact he.tek i y a s hy hb
  rw [yavasYol, semafor]
  cases hg : d.guncel ad with
  | none =>
    refine hkatil _ _ ⟨h.ortam, fun a s t ha => ?_, fun i y a s hy hb => ?_⟩ ?_
    · have ha : Function.update d.guncel ad (some (d.semaforlar.freshKey, tavan d.ortam ad)) a = some (s, t) := ha
      by_cases hne : a = ad
      · rw [hne, Function.update_self] at ha
        rw [hne, ← (Prod.mk.inj (Option.some.inj ha)).2, h.ortam]
      · rw [Function.update_of_ne hne] at ha
        exact h.guncel a s t ha
    · have htek := h.tek i y a s hy hb
      have hne : a ≠ ad := by
        rintro rfl
        rw [hg] at htek
        cases htek
      exact (Function.update_of_ne hne _ _).trans htek
    · exact (Function.update_self _ _ _).trans (by rw [h.ortam])
  | some kurulu =>
    obtain ⟨s, t⟩ := kurulu
    have ht := h.guncel ad s t hg
    dsimp only
    rw [if_pos (by rw [h.ortam, ht])]
    exact hkatil d s h (by rw [hg, ht])

theorem sabit_tasi {t : Table Semafor} {y y' : Yer} {n : ℕ} (h : Sabit o d) (hy : d.istekler.get? i = some y)
    (hbagli : ∀ a s, Bagli a s y' → Bagli a s y) :
    Sabit o { d with semaforlar := t, istekler := d.istekler.modify i (fun _ => y'), tasma := n } := by
  refine ⟨h.ortam, h.guncel, fun j z a s hz hb => ?_⟩
  have hz : (d.istekler.modify i fun _ => y').get? j = some z := hz
  rw [Table.get?_modify] at hz
  split_ifs at hz with hj
  · obtain ⟨_, -, rfl⟩ := Option.map_eq_some_iff.mp hz
    exact h.tek i y a s hy (hbagli a s hb)
  · exact h.tek j z a s hz hb

theorem sabit_yavasYol (d : YavasYolDurumu) (e : YavasYolOlayi) (h : Sabit o d) (he : ∀ o', e ≠ .ortam o') :
    Sabit o (yavasYol d e) := by
  cases e with
  | ortam o' => exact absurd rfl (he o')
  | gel ad => exact sabit_gel h ad
  | al i =>
    rw [yavasYol, slotAl]
    split
    · next ad sem hy =>
      split
      · split_ifs
        · refine sabit_tasi h hy fun a s hb => ?_
          rcases hb with hb | hb
          · cases hb
          · obtain ⟨rfl, rfl⟩ := Yer.iceride.inj hb
            exact .inl rfl
        · exact h
      · exact h
    · exact h
  | reddet i =>
    rw [yavasYol, reddet]
    split
    · next ad sem hy =>
      split
      · split_ifs
        · exact h
        · exact sabit_tasi h hy (by rintro a s (hb | hb) <;> cases hb)
      · exact h
    · exact h
  | bitir i =>
    rw [yavasYol, slotBirak]
    split
    · next ad sem hy =>
      split
      · split_ifs
        · exact sabit_tasi h hy (by rintro a s (hb | hb) <;> cases hb)
        · exact sabit_tasi h hy (by rintro a s (hb | hb) <;> cases hb)
      · exact h
    · exact h

/-- The requests inside a path hold slots of its semaphore. -/
theorem icerideki_le (htam : SlotlarTam d) (h : Sabit o d) (ad : YavasYol) : icerideki d ad ≤ tavan o ad := by
  cases hg : d.guncel ad with
  | none =>
    have hsifir : icerideki d ad = 0 := by
      calc
        _ = d.istekler.total fun _ => (0 : ℤ) := Table.total_congr fun i y hy => by
          cases y with
          | iceride a s =>
            refine if_neg fun ha => ?_
            have htek := h.tek i _ a s hy (.inr rfl)
            rw [ha, hg] at htek
            cases htek
          | bekliyor a s => rfl
          | kapasiteDolu a t => rfl
          | bitti => rfl
        _ = 0 := List.sum_eq_zero fun x hx => by
          obtain ⟨r, -, rfl⟩ := List.mem_map.mp hx
          rfl
    rw [hsifir]
    exact (tavan_pos o ad).le
  | some kurulu =>
    obtain ⟨sem, t⟩ := kurulu
    obtain ⟨s, hs, ht⟩ := htam.guncel ad sem t hg
    obtain ⟨hhesap, hbos⟩ := htam.hesap sem s hs
    have hle : icerideki d ad ≤ alinanSlot d sem := List.sum_le_sum fun r hr => by
      cases hy : r.2 with
      | iceride a s' =>
        by_cases ha : a = ad
        · have htek := h.tek r.1 _ a s' (hy ▸ Table.get?_eq_some.mpr hr) (.inr rfl)
          rw [ha, hg] at htek
          obtain ⟨rfl, -⟩ := Prod.mk.inj (Option.some.inj htek)
          rw [yolda, tuttugu, if_pos ha, if_pos rfl]
        · rw [yolda, if_neg ha]
          exact tuttugu_nonneg _
      | bekliyor a s' => exact le_rfl
      | kapasiteDolu a t' => exact le_rfl
      | bitti => exact le_rfl
    have hguncel := h.guncel ad sem t hg
    omega

theorem rezerv_of_ihlaller {kapasite : ℤ} (hK : dbHavuzKapasitesi o = some kapasite) (hi : ihlaller o = []) :
    (yavasYollar.map (tavan o)).sum + minHizliSlot o ≤ kapasite := by
  by_contra hasar
  rw [ihlaller, hK] at hi
  dsimp only at hi
  rw [if_pos (not_le.mp hasar)] at hi
  split at hi
  · cases hi
  · split_ifs at hi
    exact List.cons_ne_nil _ _ hi

/-- Under a configuration that the check at start-up accepts, no run of requests fills a path beyond its ceiling, and
whatever runs in the slow paths leaves the fast endpoints their reserve of the pool. -/
theorem slow_paths_leave_reserve {o : KapasiteOrtami} {kapasite : ℤ} (hK : dbHavuzKapasitesi o = some kapasite)
    (hi : ihlaller o = []) (olaylar : List YavasYolOlayi) (hsabit : ∀ e ∈ olaylar, ∀ o', e ≠ .ortam o') :
    let d := run yavasYol (.ilk o) olaylar
    (∀ ad, icerideki d ad ≤ tavan o ad) ∧ (yavasYollar.map (icerideki d)).sum + minHizliSlot o ≤ kapasite := by
  intro d
  have hinv : SlotlarTam d ∧ Sabit o d :=
    @run_invariant _ _ yavasYol (fun _ e => ∀ o', e ≠ .ortam o') (fun s => SlotlarTam s ∧ Sabit o s)
      (fun s e h he => ⟨tam_yavasYol s e h.1, sabit_yavasYol s e h.2 he⟩) _ olaylar ⟨tam_ilk o, sabit_ilk o⟩
      (stepsMeet_of_mem hsabit)
  have hyol := icerideki_le hinv.1 hinv.2
  refine ⟨hyol, le_trans ?_ (rezerv_of_ihlaller hK hi)⟩
  exact Int.add_le_add_right (List.sum_le_sum fun ad _ => hyol ad) _

theorem slow_paths_leave_reserve_default :
    let d := run yavasYol (.ilk ⟨fun _ => none, true⟩) [.gel .llm, .al 1, .gel .llm, .gel .eposta, .al 2, .bitir 1]
    (∀ ad, icerideki d ad ≤ tavan ⟨fun _ => none, true⟩ ad) ∧
      (yavasYollar.map (icerideki d)).sum + minHizliSlot ⟨fun _ => none, true⟩ ≤ 15 :=
  slow_paths_leave_reserve (by decide) (by decide) _ (by simp)

end Reserve

end FinancialOs.Guarantees
