import FinancialOs.Executor.RequestSteps

/-! At most one of the requests on an action carries it out, whatever the interleaving. The
conditional update is the only way past the claim, and nothing sets a row back to pending. -/
namespace FinancialOs.Guarantees
open Library Store Rules Executor
variable {ι : Type} {actionId : ℕ} {db₀ : Db}

/-- The row is open for a claim, claimed, or decided; only the claimed one has a handler call ahead. -/
structure TekSahip (db₀ : Db) (actionId : ℕ) (s : Ortak ι) : Prop where
  acik : s.kilit = none → durumu s.db actionId = some .pending → s.sahip = none ∧ s.etkiler = []
  bekleyen : ∀ i, s.sahip = some i → s.etkiler = []
  kilitli : ∀ i, s.kilit = some i → s.sahip = some i
  azami : s.etkiler.length ≤ 1
  defter : Defter.oku s.db = Defter.oku (db₀.writeAll (s.etkiler.flatMap Prod.snd))

/-- A request has its handler call ahead exactly when it owns the row. -/
structure Yerli (i : ι) (s : Ortak ι) (k : Konum) : Prop where
  once : k.once = true ↔ s.sahip = some i
  kilit : k = .onaylayacak ↔ s.kilit = some i
  kayit : k.Kayitli

private theorem yerli_bosta {i : ι} {s : Ortak ι} {k : Konum} (h : k.Bosta) (hs : s.sahip ≠ some i)
    (hk : s.kilit ≠ some i) : Yerli i s k :=
  ⟨by simp [h.once, hs], by simp [h.kilit, hk], h.kayit⟩

/-- A request that carries the row has committed its claim, so the lock is free. -/
theorem kilit_of_tasiyan {i : ι} {s : Ortak ι} {k : Konum} (hs : TekSahip db₀ actionId s)
    (hk : Yerli i s k) (ht : k.tasiyan = true) : s.sahip = some i ∧ s.kilit = none := by
  obtain ⟨honce, hne⟩ := Konum.tasiyan_once ht
  have hsahip := hk.once.mp honce
  refine ⟨hsahip, ?_⟩
  cases hl : s.kilit with
  | none => rfl
  | some j =>
    obtain rfl : i = j := Option.some.inj (hsahip.symm.trans (hs.kilitli j hl))
    exact absurd (hk.kilit.mpr hl) hne

theorem sahip_ne_of_bosta {i : ι} {s : Ortak ι} {k : Konum} (hk : Yerli i s k) (hb : k.Bosta) :
    s.sahip ≠ some i ∧ s.kilit ≠ some i := by
  refine ⟨fun h => ?_, fun h => hb.kilit (hk.kilit.mpr h)⟩
  have := hk.once.mpr h
  rw [hb.once] at this
  cases this

theorem tekSahip_own {talep : ι → Talep} {i : ι} {s s' : Ortak ι} {k k' : Konum}
    (hs : TekSahip db₀ actionId s) (hk : Yerli i s k) (h : Hareket talep actionId i s k s' k') :
    TekSahip db₀ actionId s' ∧ Yerli i s' k' := by
  cases h with
  | bekle => exact ⟨hs, hk⟩
  | oku _ _ hb he =>
    have hbos : k.Bosta := by
      rcases hb with rfl | rfl
      · exact Konum.Bosta.mk rfl (by simp) trivial
      · exact Konum.Bosta.mk rfl (by simp) trivial
    obtain ⟨hsahip, hkilit⟩ := sahip_ne_of_bosta hk hbos
    exact ⟨hs, yerli_bosta (Konum.etkisiz_bosta he) hsahip hkilit⟩
  | sahiplen hkilit hdurum =>
    obtain ⟨_, hetki⟩ := hs.acik hkilit hdurum
    refine ⟨⟨fun h => (by cases h), fun _ _ => hetki, fun j hj => hj, hs.azami, hs.defter⟩, ?_⟩
    exact ⟨by simp [Konum.once], by simp, trivial⟩
  | onayla =>
    have hsahip := hk.once.mp rfl
    refine ⟨⟨fun _ hd => ?_, hs.bekleyen, fun j hj => (by cases hj), hs.azami, hs.defter⟩, ?_⟩
    · rw [durumu_durumYaz] at hd
      exact absurd hd (map_ne_pending (by decide))
    · exact ⟨by simp [Konum.once, hsahip], by simp, trivial⟩
  | ilerle _ _ ht ht' hkay =>
    obtain ⟨hsahip, hkilit⟩ := kilit_of_tasiyan hs hk ht
    obtain ⟨honce, hne⟩ := Konum.tasiyan_once ht'
    exact ⟨hs, by simp [honce, hsahip], by simp [hne, hkilit], hkay⟩
  | vazgec _ _ ht hv =>
    obtain ⟨hsahip, hkilit⟩ := kilit_of_tasiyan hs hk ht
    refine ⟨⟨fun _ _ => ⟨rfl, hs.bekleyen i hsahip⟩, fun j hj => (by cases hj), fun j hj => ?_, hs.azami,
      hs.defter⟩, ?_⟩
    · rw [hkilit] at hj
      cases hj
    · exact yerli_bosta (Konum.vazgecen_bosta hv) (by simp) (by simp [hkilit])
  | isledi _ _ ws ht hws hv =>
    obtain ⟨hsahip, hkilit⟩ := kilit_of_tasiyan hs hk ht
    have hetki := hs.bekleyen i hsahip
    have hdurum : durumu s.db actionId ≠ some .pending := by
      intro hd
      rw [(hs.acik hkilit hd).1] at hsahip
      cases hsahip
    have hbosta : k'.Bosta :=
      hv.elim Konum.yazacakMi_bosta fun h => Konum.basarisizMi_bosta h.1
    refine ⟨⟨fun _ hd => ?_, fun j hj => (by cases hj), fun j hj => ?_, ?_, ?_⟩, ?_⟩
    · rw [durumu_writeAll hws] at hd
      exact absurd hd hdurum
    · rw [hkilit] at hj
      cases hj
    · simp [hetki]
    · have hdefter := defter_writeAll hs.defter ws
      rw [hetki] at hdefter ⊢
      simpa using hdefter
    · exact yerli_bosta hbosta (by simp) (by simp [hkilit])
  | yaz _ _ db hy hdefter hdurum hv =>
    obtain ⟨hsahip, hkilit⟩ := sahip_ne_of_bosta hk (Konum.yazacakMi_bosta hy)
    have hbosta : k'.Bosta := by
      rcases hv with ⟨cevap, rfl⟩ | h
      · exact Konum.bitti_bosta _
      · exact Konum.basarisizMi_bosta h.1
    refine ⟨⟨fun _ hd => ?_, hs.bekleyen, hs.kilitli, hs.azami, hdefter.trans hs.defter⟩,
      yerli_bosta hbosta hsahip hkilit⟩
    rw [hdurum] at hd
    exact absurd hd (map_ne_pending (by decide))
  | yazamadi _ _ hy hb _ =>
    obtain ⟨hsahip, hkilit⟩ := sahip_ne_of_bosta hk (Konum.yazacakMi_bosta hy)
    exact ⟨hs, yerli_bosta (Konum.basarisizMi_bosta hb) hsahip hkilit⟩
  | basarisiz mesaj yanit _ =>
    obtain ⟨hsahip, hkilit⟩ := sahip_ne_of_bosta hk (Konum.basarisizMi_bosta rfl)
    refine ⟨⟨fun _ hd => ?_, hs.bekleyen, hs.kilitli, hs.azami, hs.defter⟩,
      yerli_bosta (Konum.bitti_bosta _) hsahip hkilit⟩
    rw [durumu_markFailed] at hd
    exact absurd hd (map_ne_pending (by decide))
  | reddet reason _ _ =>
    obtain ⟨hsahip, hkilit⟩ := sahip_ne_of_bosta hk (Konum.etkisiz_bosta rfl)
    refine ⟨⟨fun _ hd => ?_, hs.bekleyen, hs.kilitli, hs.azami, hs.defter⟩,
      yerli_bosta (Konum.bitti_bosta _) hsahip hkilit⟩
    rw [durumu_retYaz] at hd
    exact absurd hd (map_ne_pending (by decide))

/-- A step moves the claim only between being free and being its own. -/
theorem yerli_other {talep : ι → Talep} {i j : ι} {s s' : Ortak ι} {k k' m : Konum} (hj : j ≠ i)
    (hs : TekSahip db₀ actionId s) (hk : Yerli i s k) (hm : Yerli j s m)
    (h : Hareket talep actionId i s k s' k') : Yerli j s' m := by
  have hji : ¬ i = j := fun he => hj he.symm
  cases h with
  | sahiplen hkilit hdurum =>
    obtain ⟨hsahip, _⟩ := hs.acik hkilit hdurum
    have honce := hm.once
    have hlock := hm.kilit
    rw [hsahip] at honce
    rw [hkilit] at hlock
    exact ⟨by simpa [hji] using honce, by simpa [hji] using hlock, hm.kayit⟩
  | onayla =>
    have hlock := hm.kilit
    rw [hk.kilit.mp rfl] at hlock
    exact ⟨hm.once, by simpa [hji] using hlock, hm.kayit⟩
  | vazgec _ _ ht _ =>
    have honce := hm.once
    rw [(kilit_of_tasiyan hs hk ht).1] at honce
    exact ⟨by simpa [hji] using honce, hm.kilit, hm.kayit⟩
  | isledi _ _ _ ht _ _ =>
    have honce := hm.once
    rw [(kilit_of_tasiyan hs hk ht).1] at honce
    exact ⟨by simpa [hji] using honce, hm.kilit, hm.kayit⟩
  | _ => exact ⟨hm.once, hm.kilit, hm.kayit⟩

theorem baslangic_tekSahip (db : Db) (actionId : ℕ) :
    (baslangic db : Pool ι (Ortak ι) Konum).Holds (TekSahip db actionId) Yerli :=
  ⟨⟨fun _ _ => ⟨rfl, rfl⟩, fun _ h => (nomatch h), fun _ h => (nomatch h), Nat.zero_le _, rfl⟩,
    fun _ => ⟨by simp [baslangic, Konum.once, Ortak.bos], by simp [baslangic, Ortak.bos], trivial⟩⟩

theorem run_tekSahip [DecidableEq ι] (talep : ι → Talep) (actionId : ℕ) (db : Db) (sira : List ι) :
    (run (Pool.step (talepAdimi talep actionId)) (baslangic db) sira).Holds (TekSahip db actionId)
      Yerli :=
  Pool.run_holds (C := fun _ _ _ => True)
    (fun i s _ hs hk _ => tekSahip_own hs hk (talepAdimi_hareket talep i s hk.kayit))
    (fun i _ s _ _ hj hs hk _ hm => yerli_other hj hs hk hm (talepAdimi_hareket talep i s hk.kayit))
    (baslangic_tekSahip db actionId) (stepsMeet_of_forall (fun _ _ => trivial) _ _)

/-- For any requests and any schedule, at most one handler call commits, and the ledger is the
first one with the writes of that call applied once. -/
theorem handler_effects_at_most_once [DecidableEq ι] (talep : ι → Talep) (actionId : ℕ) (db : Db)
    (sira : List ι) :
    let s := (run (Pool.step (talepAdimi talep actionId)) (baslangic db) sira).shared
    s.etkiler.length ≤ 1 ∧
      Defter.oku s.db = Defter.oku (db.writeAll (s.etkiler.flatMap Prod.snd)) :=
  have h := (run_tekSahip talep actionId db sira).shared
  ⟨h.azami, h.defter⟩

end FinancialOs.Guarantees
