import FinancialOs.Routers.LlmQuota
import Mathlib.Data.Finset.Max

/-! The ceiling on a user's calls. Whatever the interleaving, the reservation with the largest key has
counted all the others, so no more than the ceiling are granted; one after another they all are, up to it. -/
namespace FinancialOs.Guarantees
open Library Store Routers
variable {ι : Type} [DecidableEq ι] {tavan : ℕ} {cagri : ι → Rezervasyon} {gun : ℤ}
  {rows₀ : Table ApiCallLog}

abbrev KotaHavuzu (ι : Type) := Pool ι (Table ApiCallLog) RezervasyonKonumu

/-- The calls of a day over one ledger; each takes its next step when the schedule names it. -/
def rezervasyonAdimi (tavan : ℕ) (cagri : ι → Rezervasyon) : KotaHavuzu ι → ι → KotaHavuzu ι :=
  Pool.step fun i rows k => rezerveEt tavan (cagri i) rows k

def kotaBaslangici (rows₀ : Table ApiCallLog) : KotaHavuzu ι := ⟨rows₀, fun _ => .basla⟩

/-- The row of a call that has written one and not taken it back. -/
def rezervasyonId : RezervasyonKonumu → Option ℕ
  | .basla => none
  | .sayacak id => some id
  | .silecek id => some id
  | .bitti sonuc => sonuc

/-- The reservation of the call is granted. -/
def Verildi (k : RezervasyonKonumu) : Prop := ∃ id, k = .bitti (some id)

instance (k : RezervasyonKonumu) : Decidable (Verildi k) :=
  match k with
  | .bitti (some id) => .isTrue ⟨id, rfl⟩
  | .bitti none => .isFalse fun ⟨_, h⟩ => by cases h
  | .basla => .isFalse fun ⟨_, h⟩ => by cases h
  | .sayacak _ => .isFalse fun ⟨_, h⟩ => by cases h
  | .silecek _ => .isFalse fun ⟨_, h⟩ => by cases h

/-- Every insert and every count falls on the day that begins there. -/
def AyniGun (cagri : ι → Rezervasyon) (gun : ℤ) : Prop :=
  ∀ i, gunBaslangici (cagri i).an = gun ∧ gunBaslangici (cagri i).sayimAni = gun

/-- Each call has a row of its own above the old ones, and a granted one was within the ceiling. -/
structure KotaUyumu (tavan : ℕ) (cagri : ι → Rezervasyon) (gun : ℤ) (rows₀ : Table ApiCallLog)
    (p : KotaHavuzu ι) : Prop where
  satir : ∀ i id, rezervasyonId (p.loc i) = some id →
    ∃ r, p.shared.get? id = some r ∧ bugunku (cagri i).userId gun r = true
  ayri : ∀ i j id, rezervasyonId (p.loc i) = some id → rezervasyonId (p.loc j) = some id → i = j
  eski : ∀ k r, rows₀.get? k = some r → p.shared.get? k = some r
  yeni : ∀ i id, rezervasyonId (p.loc i) = some id → ∀ k r, rows₀.get? k = some r → k < id
  sinir : ∀ i id, p.loc i = .bitti (some id) → tavan ≠ 0 →
    rezervasyonSirasi p.shared (cagri i).userId gun id ≤ tavan
  acik : tavan = 0 → ∀ i, p.loc i ≠ .bitti none ∧ ∀ id, p.loc i ≠ .silecek id

section Steps
variable {p : KotaHavuzu ι}

/-- The step of a call that is not there yet: its row comes above all others. -/
private theorem KotaUyumu.ekle (hgun : AyniGun cagri gun) (h : KotaUyumu tavan cagri gun rows₀ p) {i : ι}
    (hi : p.loc i = .basla) : KotaUyumu tavan cagri gun rows₀ (rezervasyonAdimi tavan cagri p i) := by
  have hloc : ∀ j id, rezervasyonId ((rezervasyonAdimi tavan cagri p i).loc j) = some id →
      j = i ∧ id = p.shared.freshKey + (cagri i).bosluk ∨ j ≠ i ∧ rezervasyonId (p.loc j) = some id := by
    intro j id hj
    by_cases hji : j = i
    · subst hji
      rw [rezervasyonAdimi, Pool.step_loc_self, hi] at hj
      exact .inl ⟨rfl, (Option.some.inj hj).symm⟩
    · rw [rezervasyonAdimi, Pool.step_loc_of_ne p hji] at hj
      exact .inr ⟨hji, hj⟩
  have hdurur : ∀ j, j ≠ i → (rezervasyonAdimi tavan cagri p i).loc j = p.loc j := fun j hji =>
    Pool.step_loc_of_ne p hji
  have hshared : (rezervasyonAdimi tavan cagri p i).shared =
      p.shared.pushAbove (cagri i).bosluk (rezervasyonSatiri (cagri i)) := by
    rw [rezervasyonAdimi, Pool.step_shared, hi, rezerveEt]
  have hkalir : ∀ {k : ℕ} {r : ApiCallLog}, p.shared.get? k = some r →
      (rezervasyonAdimi tavan cagri p i).shared.get? k = some r := by
    intro k r hk
    rw [hshared, Table.get?_pushAbove, if_neg (by have := Table.lt_freshKey hk; omega), hk]
  have hyeni : ∀ j id, j ≠ i → rezervasyonId (p.loc j) = some id → id < p.shared.freshKey := by
    intro j id _ hj
    obtain ⟨r, hr, -⟩ := h.satir j id hj
    exact Table.lt_freshKey hr
  refine ⟨fun j id hj => ?_, fun j l id hj hl => ?_, fun k r hk => hkalir (h.eski k r hk), fun j id hj k r hk => ?_,
    fun j id hj ht => ?_, fun ht j => ?_⟩
  · rcases hloc j id hj with ⟨rfl, rfl⟩ | ⟨-, hj⟩
    · refine ⟨_, by rw [hshared, Table.get?_pushAbove, if_pos rfl], bugunku_rezervasyonSatiri ?_⟩
      rw [← (hgun j).1]
      exact gunBaslangici_le _
    · obtain ⟨r, hr, hb⟩ := h.satir j id hj
      exact ⟨r, hkalir hr, hb⟩
  · rcases hloc j id hj with ⟨rfl, rfl⟩ | ⟨hji, hj'⟩
    · rcases hloc l _ hl with ⟨rfl, -⟩ | ⟨hli, hl'⟩
      · rfl
      · have := hyeni l _ hli hl'
        omega
    · rcases hloc l _ hl with ⟨rfl, rfl⟩ | ⟨-, hl'⟩
      · have := hyeni j _ hji hj'
        omega
      · exact h.ayri j l id hj' hl'
  · rcases hloc j id hj with ⟨rfl, rfl⟩ | ⟨-, hj⟩
    · have := Table.lt_freshKey (h.eski k r hk)
      omega
    · exact h.yeni j id hj k r hk
  · by_cases hji : j = i
    · subst hji
      rw [rezervasyonAdimi, Pool.step_loc_self, hi] at hj
      cases hj
    · rw [hdurur j hji] at hj
      rw [hshared, rezervasyonSirasi_pushAbove (hyeni j id hji (by rw [hj]; rfl))]
      exact h.sinir j id hj ht
  · by_cases hji : j = i
    · subst hji
      rw [rezervasyonAdimi, Pool.step_loc_self, hi]
      exact ⟨RezervasyonKonumu.noConfusion, fun id => RezervasyonKonumu.noConfusion⟩
    · rw [hdurur j hji]
      exact h.acik ht j

/-- A call that has counted goes on with its row, if the count allows it. -/
private theorem KotaUyumu.say (hgun : AyniGun cagri gun) (h : KotaUyumu tavan cagri gun rows₀ p) {i : ι} {id : ℕ}
    (hi : p.loc i = .sayacak id) : KotaUyumu tavan cagri gun rows₀ (rezervasyonAdimi tavan cagri p i) := by
  have hshared : (rezervasyonAdimi tavan cagri p i).shared = p.shared := by
    rw [rezervasyonAdimi, Pool.step_shared, hi, rezerveEt]
  have hself : (rezervasyonAdimi tavan cagri p i).loc i =
      if tavan ≠ 0 ∧ tavan < rezervasyonSirasi p.shared (cagri i).userId gun id then .silecek id
      else .bitti (some id) := by
    rw [rezervasyonAdimi, Pool.step_loc_self, hi, rezerveEt, (hgun i).2]
  have hloc : ∀ j, rezervasyonId ((rezervasyonAdimi tavan cagri p i).loc j) = rezervasyonId (p.loc j) := by
    intro j
    by_cases hji : j = i
    · subst hji
      rw [hself, hi]
      split <;> rfl
    · rw [rezervasyonAdimi, Pool.step_loc_of_ne p hji]
  refine ⟨?_, ?_, ?_, ?_, fun j m hj ht => ?_, fun ht j => ?_⟩
  · simpa only [hloc, hshared] using h.satir
  · simpa only [hloc] using h.ayri
  · simpa only [hshared] using h.eski
  · simpa only [hloc] using h.yeni
  · rw [hshared]
    by_cases hji : j = i
    · subst hji
      rw [hself] at hj
      split at hj
      · cases hj
      · next hn =>
        obtain rfl : id = m := by simpa using hj
        exact not_lt.mp fun hlt => hn ⟨ht, hlt⟩
    · rw [rezervasyonAdimi, Pool.step_loc_of_ne p hji] at hj
      exact h.sinir j m hj ht
  · by_cases hji : j = i
    · subst hji
      rw [hself, if_neg fun hc => hc.1 ht]
      exact ⟨fun hb => by simp at hb, fun id => RezervasyonKonumu.noConfusion⟩
    · rw [rezervasyonAdimi, Pool.step_loc_of_ne p hji]
      exact h.acik ht j

/-- A refused call takes back its own row and no other. -/
private theorem KotaUyumu.sil (h : KotaUyumu tavan cagri gun rows₀ p) {i : ι} {id : ℕ}
    (hi : p.loc i = .silecek id) : KotaUyumu tavan cagri gun rows₀ (rezervasyonAdimi tavan cagri p i) := by
  have hshared : (rezervasyonAdimi tavan cagri p i).shared = p.shared.erase id := by
    rw [rezervasyonAdimi, Pool.step_shared, hi, rezerveEt]
  have hself : (rezervasyonAdimi tavan cagri p i).loc i = .bitti none := by
    rw [rezervasyonAdimi, Pool.step_loc_self, hi, rezerveEt]
  have hid : rezervasyonId (p.loc i) = some id := by
    rw [hi]
    rfl
  have hloc : ∀ j m, rezervasyonId ((rezervasyonAdimi tavan cagri p i).loc j) = some m →
      j ≠ i ∧ rezervasyonId (p.loc j) = some m := by
    intro j m hj
    by_cases hji : j = i
    · subst hji
      rw [hself] at hj
      cases hj
    · rw [rezervasyonAdimi, Pool.step_loc_of_ne p hji] at hj
      exact ⟨hji, hj⟩
  refine ⟨fun j m hj => ?_, fun j l m hj hl => ?_, fun k r hk => ?_, fun j m hj => ?_, fun j m hj ht => ?_,
    fun ht => absurd hi ((h.acik ht i).2 id)⟩
  · obtain ⟨hji, hj⟩ := hloc j m hj
    obtain ⟨r, hr, hb⟩ := h.satir j m hj
    have hne : m ≠ id := by
      rintro rfl
      exact hji (h.ayri j i m hj hid)
    exact ⟨r, by rw [hshared, Table.get?_erase, if_neg hne, hr], hb⟩
  · exact h.ayri j l m (hloc j m hj).2 (hloc l m hl).2
  · have := h.yeni i id hid k r hk
    rw [hshared, Table.get?_erase, if_neg (by omega)]
    exact h.eski k r hk
  · exact h.yeni j m (hloc j m hj).2
  · have hji : j ≠ i := by
      rintro rfl
      rw [hself] at hj
      cases hj
    rw [rezervasyonAdimi, Pool.step_loc_of_ne p hji] at hj
    rw [hshared]
    exact Table.count_erase_le.trans (h.sinir j m hj ht)

theorem kotaUyumu_adim (hgun : AyniGun cagri gun) (h : KotaUyumu tavan cagri gun rows₀ p) (i : ι) :
    KotaUyumu tavan cagri gun rows₀ (rezervasyonAdimi tavan cagri p i) := by
  cases hi : p.loc i with
  | basla => exact h.ekle hgun hi
  | sayacak id => exact h.say hgun hi
  | silecek id => exact h.sil hi
  | bitti sonuc =>
    have hp : rezervasyonAdimi tavan cagri p i = p := by
      rw [rezervasyonAdimi, Pool.step, hi, rezerveEt, ← hi, Function.update_eq_self]
    rwa [hp]

theorem kotaUyumu_baslangic : KotaUyumu tavan cagri gun rows₀ (kotaBaslangici rows₀ : KotaHavuzu ι) where
  satir _ _ hj := by cases hj
  ayri _ _ _ hj := by cases hj
  eski _ _ hk := hk
  yeni _ _ hj := by cases hj
  sinir _ _ hj := by cases hj
  acik _ _ := ⟨RezervasyonKonumu.noConfusion, fun _ => RezervasyonKonumu.noConfusion⟩

/-- The granted reservation with the largest key has counted the old rows and all the other granted ones. -/
theorem KotaUyumu.card_le (h : KotaUyumu tavan cagri gun rows₀ p) (ht : tavan ≠ 0) {userId : ℕ}
    {verilen : Finset ι} (hv : ∀ i ∈ verilen, (cagri i).userId = userId ∧ Verildi (p.loc i)) :
    verilen.card ≤ tavan - rows₀.count fun _ r => bugunku userId gun r := by
  rcases verilen.eq_empty_or_nonempty with rfl | hne
  · exact Nat.zero_le _
  let no (i : ι) : ℕ := (rezervasyonId (p.loc i)).getD 0
  have hno : ∀ i ∈ verilen, p.loc i = .bitti (some (no i)) := by
    intro i hi
    obtain ⟨id, hid⟩ := (hv i hi).2
    simp only [no, hid, rezervasyonId, Option.getD_some]
  have hid : ∀ i ∈ verilen, rezervasyonId (p.loc i) = some (no i) := fun i hi => by rw [hno i hi]; rfl
  obtain ⟨son, hson, hmax⟩ := verilen.exists_max_image no hne
  obtain ⟨eskiler, hcard, heski⟩ := rows₀.exists_keys fun _ r => bugunku userId gun r
  have hinj : (verilen.image no).card = verilen.card := by
    refine Finset.card_image_of_injOn fun i hi j hj he => ?_
    exact h.ayri i j _ (hid i hi) (by rw [hid j hj, ← show no i = no j from he])
  have hayrik : Disjoint eskiler (verilen.image no) := by
    rw [Finset.disjoint_left]
    intro k hk hk'
    obtain ⟨i, hi, rfl⟩ := Finset.mem_image.mp hk'
    obtain ⟨r, hr, -⟩ := (heski _).mp hk
    exact lt_irrefl _ (h.yeni i _ (hid i hi) _ r hr)
  have hsayilan : (eskiler ∪ verilen.image no).card ≤ rezervasyonSirasi p.shared userId gun (no son) := by
    refine Table.card_le_count fun k hk => ?_
    rcases Finset.mem_union.mp hk with hk | hk
    · obtain ⟨r, hr, hb⟩ := (heski k).mp hk
      have := h.yeni son _ (hid son hson) k r hr
      exact ⟨r, h.eski k r hr, decide_eq_true ⟨hb, by omega⟩⟩
    · obtain ⟨i, hi, rfl⟩ := Finset.mem_image.mp hk
      obtain ⟨r, hr, hb⟩ := h.satir i _ (hid i hi)
      rw [(hv i hi).1] at hb
      exact ⟨r, hr, decide_eq_true ⟨hb, hmax i hi⟩⟩
  have htavan := h.sinir son _ (hno son hson) ht
  rw [(hv son hson).1] at htavan
  rw [Finset.card_union_of_disjoint hayrik, hinj, hcard] at hsayilan
  omega

end Steps

/-- One call after another. -/
def ardisik (l : List ι) : List ι := l.flatMap (List.replicate 3)

/-- The calls one after another: the first ones are granted, as many as the ceiling has room for. -/
theorem countP_verildi_ardisik (hgun : AyniGun cagri gun) {userId : ℕ} {l : List ι} (hl : l.Nodup)
    {p : KotaHavuzu ι} (hp : ∀ i ∈ l, p.loc i = .basla ∧ (cagri i).userId = userId) :
    l.countP (fun i => Verildi ((run (rezervasyonAdimi tavan cagri) p (ardisik l)).loc i)) =
      if tavan = 0 then l.length else min l.length (tavan - p.shared.count fun _ r => bugunku userId gun r) := by
  induction l generalizing p with
  | nil => simp
  | cons i l ih =>
    obtain ⟨hi, hl⟩ := List.nodup_cons.mp hl
    obtain ⟨hbas, huser⟩ := hp i List.mem_cons_self
    have hsonra : i ∉ ardisik l := fun h => by
      obtain ⟨j, hj, hij⟩ := List.mem_flatMap.mp h
      exact hi ((List.mem_replicate.mp hij).2 ▸ hj)
    have htek := Pool.run_alone (f := fun i rows k => rezerveEt tavan (cagri i) rows k) p i 3
    rw [hbas] at htek
    change _ = rezerveEtTek tavan (cagri i) p.shared at htek
    rw [rezerveEtTek_eq (by rw [(hgun i).2, ← (hgun i).1]; exact gunBaslangici_le _), bugunkuCagriSayisi, huser,
      (hgun i).2] at htek
    generalize hq : run (rezervasyonAdimi tavan cagri) p (List.replicate 3 i) = q
    have hqrun : run (rezervasyonAdimi tavan cagri) p (ardisik (i :: l)) =
        run (rezervasyonAdimi tavan cagri) q (ardisik l) := by
      rw [← hq, ← run_append]
      rfl
    have hql : ∀ j ∈ l, q.loc j = .basla ∧ (cagri j).userId = userId := by
      intro j hj
      have hji : j ∉ List.replicate 3 i := fun h => hi ((List.mem_replicate.mp h).2 ▸ hj)
      rw [← hq, rezervasyonAdimi, Pool.run_loc_of_not_mem p hji]
      exact hp j (List.mem_cons_of_mem _ hj)
    have hqi : (run (rezervasyonAdimi tavan cagri) q (ardisik l)).loc i = q.loc i :=
      Pool.run_loc_of_not_mem q hsonra
    rw [hqrun, List.countP_cons, ih hl hql, hqi, List.length_cons]
    rw [show run (Pool.step fun i rows k => rezerveEt tavan (cagri i) rows k) p (List.replicate 3 i) = q from hq]
      at htek
    by_cases hizin : tavan = 0 ∨ p.shared.count (fun _ r => bugunku userId gun r) < tavan
    · rw [if_pos hizin] at htek
      obtain ⟨hrows, hyer⟩ := Prod.mk.inj htek
      have hsay : q.shared.count (fun _ r => bugunku userId gun r) =
          p.shared.count (fun _ r => bugunku userId gun r) + 1 := by
        rw [hrows, Table.count_pushAbove, if_pos]
        rw [← huser, ← (hgun i).1]
        exact bugunku_rezervasyonSatiri (gunBaslangici_le _)
      rw [hyer, hsay, if_pos (decide_eq_true ⟨_, rfl⟩)]
      split <;> omega
    · rw [if_neg hizin] at htek
      obtain ⟨hrows, hyer⟩ := Prod.mk.inj htek
      have hyok : ¬ decide (Verildi (.bitti none)) = true := by decide
      rw [hyer, hrows, if_neg hyok]
      split <;> omega

/-- With a ceiling, no interleaving grants a user more than it has room for, and calls made one after
another are granted as long as it has; without one every call that comes to its end is granted. -/
theorem quota_reservations (tavan : ℕ) (cagri : ι → Rezervasyon) (gun : ℤ) (rows₀ : Table ApiCallLog)
    (hgun : AyniGun cagri gun) (userId : ℕ) :
    let once := rows₀.count fun _ r => bugunku userId gun r
    (∀ (sira : List ι) (verilen : Finset ι),
      (∀ i ∈ verilen, (cagri i).userId = userId ∧
        Verildi ((run (rezervasyonAdimi tavan cagri) (kotaBaslangici rows₀) sira).loc i)) →
      tavan ≠ 0 → verilen.card ≤ tavan - once) ∧
    (∀ (sira : List ι) (i : ι), tavan = 0 →
      (run (rezervasyonAdimi tavan cagri) (kotaBaslangici rows₀) sira).loc i ≠ .bitti none) ∧
    ∀ l : List ι, l.Nodup → (∀ i ∈ l, (cagri i).userId = userId) →
      l.countP (fun i =>
          Verildi ((run (rezervasyonAdimi tavan cagri) (kotaBaslangici rows₀) (ardisik l)).loc i)) =
        if tavan = 0 then l.length else min l.length (tavan - once) := by
  intro once
  have hadim (p : KotaHavuzu ι) (i : ι) (h : KotaUyumu tavan cagri gun rows₀ p) :
      KotaUyumu tavan cagri gun rows₀ (rezervasyonAdimi tavan cagri p i) := kotaUyumu_adim hgun h i
  have hson (sira : List ι) := run_invariant_all hadim sira kotaUyumu_baslangic
  refine ⟨fun sira verilen hv ht => (hson sira).card_le ht hv, fun sira i ht => ((hson sira).acik ht i).1,
    fun l hl hu => ?_⟩
  exact countP_verildi_ardisik hgun hl fun i hi => ⟨rfl, hu i hi⟩

/-- Calls of one user at noon of the first day. -/
def ogleCagrisi (_ : ℕ) : Rezervasyon := ⟨1, "Groq", "?", "koc", 43200000000, 43200000000, 0⟩

theorem quota_reservations_ogle :
    [0, 1, 2].countP (fun i => Verildi
      ((run (rezervasyonAdimi 2 ogleCagrisi) (kotaBaslangici .empty) (ardisik [0, 1, 2])).loc i)) = 2 := by
  have hogle : gunBaslangici 43200000000 = 0 := by decide
  have hgun : AyniGun ogleCagrisi 0 := fun _ => ⟨hogle, hogle⟩
  exact (quota_reservations 2 ogleCagrisi 0 .empty hgun 1).2.2 [0, 1, 2] (by decide) fun _ _ => rfl

/-- A ceiling of 0 is none at all. -/
theorem ceiling_of_zero_grants :
    ¬ ∀ verilen : Finset ℕ, (∀ i ∈ verilen, Verildi
      ((run (rezervasyonAdimi 0 ogleCagrisi) (kotaBaslangici .empty) [0, 0]).loc i)) → verilen.card ≤ 0 := by
  intro h
  have hbir : Verildi ((run (rezervasyonAdimi 0 ogleCagrisi) (kotaBaslangici .empty) [0, 0]).loc 0) := by
    decide +kernel
  have := h {0} fun i hi => by rwa [Finset.mem_singleton.mp hi]
  simp at this

end FinancialOs.Guarantees
