import FinancialOs.Rules.CockpitScans

/-! Which merchants are reported as subscriptions: the payments of the last half year decide, and a half year has no
annual gap. -/
namespace FinancialOs.Guarantees
open Library Store Rules

section Groups
variable (c : KokpitDb) (userId : ℕ) (workspaceId : Option ℕ) (today : Date) (key : String)

/-- The merchant of a transaction. -/
def isyeri (t : Transaction) : String := normalizeMerchant (t.description.getD "")

/-- Every expense of the scope with a description, by its day. -/
def butunGiderler : List Transaction :=
  (((kapsamSatirlari c.panel.db.transactions userId workspaceId).map Prod.snd).filter fun t =>
    t.transactionType = .expense ∧ t.description.isSome).mergeSort
      fun a b => gunNo a.transactionDate ≤ gunNo b.transactionDate

/-- The whole history of a merchant. -/
def butunGrup : List Transaction := (butunGiderler c userId workspaceId).filter fun t => isyeri t = key

/-- What the look-back leaves of it. -/
def sonGrup : List Transaction := (abonelikAdaylari c userId workspaceId today).filter fun t => isyeri t = key

/-- A subscription of the report comes from the group. -/
def Raporlandi : Prop :=
  key ≠ "" ∧ ∃ s, abonelik (sonGrup c userId workspaceId today key) = some s ∧
    s ∈ detectSubscriptions c userId workspaceId today

end Groups

section Criteria
variable {items : List Transaction} {gunler : List ℕ} {g alt ust : ℕ}

def AylikBant (g : ℕ) : Prop := 24 ≤ g ∧ g ≤ 35

def YillikBant (g : ℕ) : Prop := 350 ≤ g ∧ g ≤ 381

/-- Three occurrences, at most two amounts, and a gap in the middle that lies in a band. -/
def Duzenli (bant : ℕ → Prop) (items : List Transaction) : Prop :=
  subMinOccurrences ≤ items.length ∧ (items.map fun t => roundEven t.amount 2).eraseDups.length ≤ subMaxDistinctAmounts ∧
    ∃ g ∈ ortancaAralik (items.map fun t => gunNo t.transactionDate), bant g

/-- What is documented as a subscription. -/
def AbonelikOlcutu (items : List Transaction) : Prop := Duzenli (fun g => AylikBant g ∨ YillikBant g) items

theorem abonelikOlcutu_iff : AbonelikOlcutu items ↔ Duzenli AylikBant items ∨ Duzenli YillikBant items := by
  unfold AbonelikOlcutu Duzenli
  constructor
  · rintro ⟨hlength, hdistinct, g, hg, hband | hband⟩
    · exact .inl ⟨hlength, hdistinct, g, hg, hband⟩
    · exact .inr ⟨hlength, hdistinct, g, hg, hband⟩
  · rintro (⟨hlength, hdistinct, g, hg, hband⟩ | ⟨hlength, hdistinct, g, hg, hband⟩)
    · exact ⟨hlength, hdistinct, g, hg, .inl hband⟩
    · exact ⟨hlength, hdistinct, g, hg, .inr hband⟩

theorem isSome_aylikMaliyet (g : ℕ) (tutar : ℚ) : (aylikMaliyet g tutar).isSome = true ↔ AylikBant g ∨ YillikBant g := by
  unfold aylikMaliyet AylikBant YillikBant
  split_ifs with haylik hyillik
  · exact iff_of_true rfl (.inl haylik)
  · exact iff_of_true rfl (.inr hyillik)
  · exact iff_of_false (by simp) (not_or.mpr ⟨haylik, hyillik⟩)

theorem isSome_abonelik : (abonelik items).isSome = true ↔ AbonelikOlcutu items := by
  unfold abonelik
  dsimp only
  split_ifs with h
  · refine iff_of_false (by simp) fun o => ?_
    rcases h with h | h
    · exact absurd o.1 (not_le.mpr h)
    · exact absurd o.2.1 (not_le.mpr h)
  · obtain ⟨hlength, hdistinct⟩ := not_or.mp h
    rw [AbonelikOlcutu, Duzenli, and_iff_right (not_lt.mp hlength), and_iff_right (not_lt.mp hdistinct)]
    cases ortancaAralik (items.map fun t => gunNo t.transactionDate) with
    | none => simp
    | some g =>
      rw [Option.bind_some, Option.isSome_map, isSome_aylikMaliyet]
      simp

/-- The middle gap lies between two of the days. -/
theorem ortancaAralik_mem (h : g ∈ ortancaAralik gunler) : ∃ d ∈ gunler, ∃ e ∈ gunler, g = e - d := by
  have hg := List.mem_of_getElem? h
  rw [List.mem_mergeSort] at hg
  obtain ⟨p, hp, rfl⟩ := List.mem_map.mp (List.mem_filter.mp hg).1
  obtain ⟨hd, he⟩ := List.of_mem_zip hp
  exact ⟨p.1, hd, p.2, List.mem_of_mem_tail he, rfl⟩

/-- Within a half year no gap is annual. -/
theorem ortancaAralik_le (hgunler : ∀ d ∈ gunler, alt ≤ d ∧ d ≤ ust) (h : g ∈ ortancaAralik gunler) : g ≤ ust - alt := by
  obtain ⟨d, hd, e, he, rfl⟩ := ortancaAralik_mem h
  have := (hgunler d hd).1
  have := (hgunler e he).2
  omega

end Criteria

section Report
variable {c : KokpitDb} {userId : ℕ} {workspaceId : Option ℕ} {today : Date} {key : String}

theorem mem_abonelikAdaylari {t : Transaction} : t ∈ abonelikAdaylari c userId workspaceId today ↔
    t ∈ butunGiderler c userId workspaceId ∧ gunNo today ≤ gunNo t.transactionDate + 180 := by
  rw [abonelikAdaylari, butunGiderler, List.mem_mergeSort, List.mem_mergeSort, List.mem_filter, List.mem_filter]
  simp only [decide_eq_true_eq, Bool.decide_and, Bool.and_eq_true]
  tauto

/-- The report holds exactly the groups of three payments or more that are subscriptions. -/
theorem mem_detectSubscriptions {s : Abonelik × ℚ} : s ∈ detectSubscriptions c userId workspaceId today ↔
    ∃ key, key ≠ "" ∧ abonelik (sonGrup c userId workspaceId today key) = some s := by
  unfold detectSubscriptions
  dsimp only
  rw [List.mem_mergeSort, List.mem_filterMap]
  constructor
  · rintro ⟨key, hkey, hs⟩
    rw [List.mem_eraseDups, List.mem_filter] at hkey
    exact ⟨key, of_decide_eq_true hkey.2, hs⟩
  · rintro ⟨key, hne, hs⟩
    refine ⟨key, ?_, hs⟩
    have hlength := (isSome_abonelik.mp (Option.isSome_of_mem hs)).1
    obtain ⟨t, ht⟩ := List.exists_mem_of_length_pos (lt_of_lt_of_le (by decide : 0 < subMinOccurrences) hlength)
    obtain ⟨ht, hkey⟩ := List.mem_filter.mp ht
    rw [List.mem_eraseDups, List.mem_filter]
    exact ⟨List.mem_map.mpr ⟨t, ht, of_decide_eq_true hkey⟩, decide_eq_true hne⟩

theorem raporlandi_iff : Raporlandi c userId workspaceId today key ↔
    key ≠ "" ∧ AbonelikOlcutu (sonGrup c userId workspaceId today key) := by
  rw [Raporlandi, ← isSome_abonelik, Option.isSome_iff_exists]
  refine and_congr_right fun hne => exists_congr fun s => and_iff_left_of_imp fun hs => ?_
  exact mem_detectSubscriptions.mpr ⟨key, hne, hs⟩

/-- In the look-back the documented criteria leave the monthly band only. -/
theorem abonelikOlcutu_sonGrup (hbugun : ∀ t ∈ butunGiderler c userId workspaceId, gunNo t.transactionDate ≤ gunNo today) :
    AbonelikOlcutu (sonGrup c userId workspaceId today key) ↔ Duzenli AylikBant (sonGrup c userId workspaceId today key) := by
  have hgunler : ∀ d ∈ (sonGrup c userId workspaceId today key).map (fun t => gunNo t.transactionDate),
      gunNo today - 180 ≤ d ∧ d ≤ gunNo today := by
    intro d hd
    obtain ⟨t, ht, rfl⟩ := List.mem_map.mp hd
    obtain ⟨hmem, hlast⟩ := mem_abonelikAdaylari.mp (List.mem_filter.mp ht).1
    have := hbugun t hmem
    omega
  refine and_congr_right fun _ => and_congr_right fun _ => exists_congr fun g => and_congr_right fun hg => ?_
  have hle := ortancaAralik_le hgunler hg
  unfold AylikBant YillikBant
  omega

/-- A running merchant is reported as documented exactly if its whole history meets the documented criteria just when
the payments of the last half year come monthly. -/
theorem subscription_reported_iff
    (hbugun : ∀ t ∈ butunGiderler c userId workspaceId, gunNo t.transactionDate ≤ gunNo today) :
    (∀ key, key ≠ "" → sonGrup c userId workspaceId today key ≠ [] →
        (Raporlandi c userId workspaceId today key ↔ AbonelikOlcutu (butunGrup c userId workspaceId key))) ↔
      ∀ key, key ≠ "" → sonGrup c userId workspaceId today key ≠ [] →
        (Duzenli AylikBant (sonGrup c userId workspaceId today key) ↔
          Duzenli AylikBant (butunGrup c userId workspaceId key) ∨
            Duzenli YillikBant (butunGrup c userId workspaceId key)) := by
  refine forall_congr' fun key => forall_congr' fun hne => forall_congr' fun _ => ?_
  rw [raporlandi_iff, and_iff_right hne, abonelikOlcutu_sonGrup hbugun, abonelikOlcutu_iff]

end Report

/-- A domain that is paid for every summer. -/
def alanOdemesi (d : Date) : Transaction := ⟨1, none, none, .expense, 600, none, some "Alan", d, false⟩

def yenilemeGunu : Date := (Date.ofYmd? 2026 6 7).get rfl

def odemeGunleri : List Date := [(Date.ofYmd? 2024 6 7).get rfl, (Date.ofYmd? 2025 6 7).get rfl, yenilemeGunu]

def yillikDb : KokpitDb where
  panel := {
    db := { Db.empty with transactions := odemeGunleri.foldl (fun t d => t.push (alanOdemesi d)) .empty }
    hesapEki := fun _ => ⟨none, none, none, none⟩
    envelopes := .empty }
  categories := .empty

theorem butunGiderler_yillikDb : butunGiderler yillikDb 1 none = odemeGunleri.map alanOdemesi := by
  have hgiderler : ((kapsamSatirlari yillikDb.panel.db.transactions 1 none).map Prod.snd).filter (fun t =>
      t.transactionType = .expense ∧ t.description.isSome) = odemeGunleri.map alanOdemesi := by decide +kernel
  rw [butunGiderler, hgiderler, List.mergeSort_of_pairwise (by decide +kernel)]

theorem yillikDb_bugun : ∀ t ∈ butunGiderler yillikDb 1 none, gunNo t.transactionDate ≤ gunNo yenilemeGunu := by
  have hall : (odemeGunleri.map alanOdemesi).all (fun t => gunNo t.transactionDate ≤ gunNo yenilemeGunu) = true := by
    decide +kernel
  rw [butunGiderler_yillikDb]
  exact fun t ht => of_decide_eq_true (List.all_eq_true.mp hall t ht)

/-- Three payments of one amount, a year apart. -/
theorem butunGrup_yillikDb : AbonelikOlcutu (butunGrup yillikDb 1 none "alan") := by
  have hgrup : butunGrup yillikDb 1 none "alan" = odemeGunleri.map alanOdemesi := by
    rw [butunGrup, butunGiderler_yillikDb]
    decide +kernel
  have hgunler : (odemeGunleri.map alanOdemesi).map (fun t => gunNo t.transactionDate) = odemeGunleri.map gunNo := rfl
  have haralik : (((odemeGunleri.map gunNo).zip (odemeGunleri.map gunNo).tail).map fun g => g.2 - g.1).filter (0 < ·) =
      [365, 365] := by decide +kernel
  have hortanca : ortancaAralik (odemeGunleri.map gunNo) = some 365 := by
    unfold ortancaAralik
    dsimp only
    rw [haralik, List.mergeSort_of_pairwise (by decide)]
    rfl
  rw [hgrup]
  exact ⟨by decide, by decide +kernel, 365, by rw [hgunler, hortanca]; rfl, .inr ⟨by decide, by decide⟩⟩

theorem subscription_reported_iff_yillikDb :
    (∀ key, key ≠ "" → sonGrup yillikDb 1 none yenilemeGunu key ≠ [] →
        (Raporlandi yillikDb 1 none yenilemeGunu key ↔ AbonelikOlcutu (butunGrup yillikDb 1 none key))) ↔
      ∀ key, key ≠ "" → sonGrup yillikDb 1 none yenilemeGunu key ≠ [] →
        (Duzenli AylikBant (sonGrup yillikDb 1 none yenilemeGunu key) ↔
          Duzenli AylikBant (butunGrup yillikDb 1 none key) ∨ Duzenli YillikBant (butunGrup yillikDb 1 none key)) :=
  subscription_reported_iff yillikDb_bugun

/-- The third annual payment falls alone into the look-back. -/
theorem annual_payment_not_reported : ¬ ∀ (c : KokpitDb) (userId : ℕ) (workspaceId : Option ℕ) (today : Date),
    (∀ t ∈ butunGiderler c userId workspaceId, gunNo t.transactionDate ≤ gunNo today) →
      ∀ key, key ≠ "" → sonGrup c userId workspaceId today key ≠ [] →
        (Raporlandi c userId workspaceId today key ↔ AbonelikOlcutu (butunGrup c userId workspaceId key)) := by
  intro h
  have hson : sonGrup yillikDb 1 none yenilemeGunu "alan" = [alanOdemesi yenilemeGunu] := by decide +kernel
  have hrapor := (h yillikDb 1 none yenilemeGunu yillikDb_bugun "alan" (by decide) (by rw [hson]; exact List.cons_ne_nil _ _)).mpr
    butunGrup_yillikDb
  have hlength := (raporlandi_iff.mp hrapor).2.1
  rw [hson] at hlength
  revert hlength
  decide

end FinancialOs.Guarantees
