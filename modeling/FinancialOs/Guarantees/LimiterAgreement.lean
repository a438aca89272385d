import FinancialOs.Library.SlidingWindows
import FinancialOs.Routers.RateLimit
import Mathlib.Tactic.Linarith

/-! The two counters of the rate limiter. The one in memory holds a client to the requests it has let through, the
one in the database to all that were made; and the one in memory among the requests of all clients. -/
namespace FinancialOs.Guarantees
open Library SlidingWindows Routers

section Counters
variable {key : String} {maxR window : ℤ}

/-- The instant a window that ends now begins at. -/
def pencereBasi (window : ℤ) (simdi : ℚ) : ℚ := simdi - window

/-- The instants the database holds for a client. -/
def anlar (key : String) (hits : Table RateLimitHit) : List ℚ :=
  (hits.select fun h => h.bucketKey = key).map fun r => r.2.hitAt

theorem pencereBasi_mono {t n : ℚ} (h : t ≤ n) : pencereBasi window t ≤ pencereBasi window n := sub_le_sub_right h _

theorem kabul_iff (sayi : ℤ) : (rateLimit maxR window sayi).2 = decide (sayi ≤ maxR) := by
  rw [rateLimit, decide_eq_decide.mpr not_lt.symm, decide_not]

theorem limitMemory_eq {rate : Sayaclar} (now : ℚ) (h : (rate key).Pairwise (· ≤ ·)) :
    limitMemory key maxR window now rate =
      if maxR ≤ (since (pencereBasi window now) (rate key)).length then
        (maxR + 1, Function.update rate key (since (pencereBasi window now) (rate key)))
      else ((since (pencereBasi window now) (rate key)).length + 1,
        Function.update rate key (since (pencereBasi window now) (rate key) ++ [now])) := by
  have hq : (rate key).dropWhile (fun t => (window : ℚ) < now - t) = since (pencereBasi window now) (rate key) := by
    rw [← dropWhile_eq_since h]
    congr 1
    funext t
    rw [pencereBasi, decide_eq_decide]
    constructor
    · intro ht
      linarith
    · intro ht
      linarith
  simp only [limitMemory, hq, List.length_append, List.length_singleton, Nat.cast_add, Nat.cast_one]

/-- The memory holds the client to what it has let through. -/
theorem kararlar_bellek {rate : Sayaclar} {kabuller zamanlar : List ℚ} (hsirali : zamanlar.Pairwise (· ≤ ·))
    (hq : (rate key).Pairwise (· ≤ ·)) (hson : ∀ x ∈ rate key, ∀ n ∈ zamanlar, x ≤ n)
    (hayni : ∀ n ∈ zamanlar, since (pencereBasi window n) (rate key) = since (pencereBasi window n) kabuller) :
    kararlar (limitMemory key maxR window) maxR window rate zamanlar =
      admitted (pencereBasi window) maxR kabuller zamanlar := by
  induction zamanlar generalizing rate kabuller with
  | nil => rfl
  | cons t zamanlar ih =>
    obtain ⟨ht, hkalan⟩ := List.pairwise_cons.mp hsirali
    have hilk := hayni t List.mem_cons_self
    have hq' := pairwise_since (b := pencereBasi window t) hq
    have hsonra : ∀ n ∈ zamanlar, ∀ l, since (pencereBasi window n) (since (pencereBasi window t) l) =
        since (pencereBasi window n) l := fun n hn l => since_since (pencereBasi_mono (ht n hn))
    have hicinde : ∀ x ∈ since (pencereBasi window t) (rate key), ∀ n ∈ zamanlar, x ≤ n := fun x hx n hn =>
      hson x (List.mem_of_mem_filter hx) n (List.mem_cons_of_mem t hn)
    rw [kararlar, admitted, limitMemory_eq t hq, kabul_iff, ← hilk]
    by_cases hdolu : maxR ≤ (since (pencereBasi window t) (rate key)).length
    · rw [if_pos hdolu, if_neg hdolu.not_gt, decide_eq_false (by omega), List.cons_inj_right]
      dsimp only
      refine ih hkalan (by rwa [Function.update_self]) (by rwa [Function.update_self]) fun n hn => ?_
      rw [Function.update_self, hsonra n hn]
      exact hayni n (List.mem_cons_of_mem t hn)
    · rw [if_neg hdolu, if_pos (not_le.mp hdolu), decide_eq_true (by omega), List.cons_inj_right]
      dsimp only
      refine ih hkalan ?_ ?_ fun n hn => ?_
      · rw [Function.update_self, List.pairwise_append]
        refine ⟨hq', List.pairwise_singleton _ t, fun x hx y hy => ?_⟩
        rw [List.mem_singleton.mp hy]
        exact hson x (List.mem_of_mem_filter hx) t List.mem_cons_self
      · rw [Function.update_self]
        intro x hx n hn
        rcases List.mem_append.mp hx with hx | hx
        · exact hicinde x hx n hn
        · rw [List.mem_singleton.mp hx]
          exact ht n hn
      · rw [Function.update_self, since_append, hsonra n hn, since_append,
          hayni n (List.mem_cons_of_mem t hn)]

theorem anlar_push (hits : Table RateLimitHit) (t : ℚ) : anlar key (hits.push ⟨key, t⟩) = anlar key hits ++ [t] := by
  have hsatirlar := Table.select_push hits ⟨key, t⟩ fun h => h.bucketKey = key
  rw [if_pos (decide_eq_true rfl)] at hsatirlar
  have han := congrArg (List.map RateLimitHit.hitAt) hsatirlar
  rwa [List.map_append, List.map_map, List.map_map] at han

/-- What the database drops of a client is what the window has left behind. -/
theorem anlar_keep (hits : Table RateLimitHit) (esik : ℚ) :
    anlar key (hits.keep fun h => ¬ (h.bucketKey = key ∧ h.hitAt < esik)) = since esik (anlar key hits) := by
  rw [anlar, anlar, since, List.filter_map, Table.select, Table.select, Table.keep, List.filter_filter,
    List.filter_filter]
  refine congrArg _ (List.filter_congr fun r _ => ?_)
  by_cases hkey : r.2.bucketKey = key
  · simp [hkey]
  · simp [hkey]

theorem anlar_limitDb (s : Sayaclar × Table RateLimitHit) (t : ℚ) :
    anlar key (limitDb true key maxR window t s).2.2 = since (pencereBasi window t) (anlar key s.2) ++ [t] := by
  rw [limitDb, if_pos rfl]
  exact (anlar_push _ t).trans (congrArg (· ++ [t]) (anlar_keep s.2 (pencereBasi window t)))

theorem sayi_limitDb (s : Sayaclar × Table RateLimitHit) (t : ℚ) :
    (limitDb true key maxR window t s).1 =
      (since (pencereBasi window t) (anlar key (limitDb true key maxR window t s).2.2)).length := by
  have hsay (hits : Table RateLimitHit) (esik : ℚ) :
      hits.count (fun _ h => h.bucketKey = key ∧ esik ≤ h.hitAt) = (since esik (anlar key hits)).length := by
    rw [anlar, since, List.filter_map, List.length_map, Table.select, List.filter_filter, Table.count]
    refine congrArg _ (List.filter_congr fun r _ => ?_)
    rw [Bool.decide_and, Bool.and_comm]
    rfl
  rw [limitDb, if_pos rfl]
  exact congrArg _ (hsay _ (pencereBasi window t))

/-- The database holds the client to what it has asked for. -/
theorem kararlar_db {s : Sayaclar × Table RateLimitHit} {gecmis zamanlar : List ℚ}
    (hsirali : zamanlar.Pairwise (· ≤ ·))
    (hayni : ∀ n ∈ zamanlar, since (pencereBasi window n) (anlar key s.2) = since (pencereBasi window n) gecmis) :
    kararlar (limitDb true key maxR window) maxR window s zamanlar =
      admitAll (pencereBasi window) maxR gecmis zamanlar := by
  induction zamanlar generalizing s gecmis with
  | nil => rfl
  | cons t zamanlar ih =>
    obtain ⟨ht, hkalan⟩ := List.pairwise_cons.mp hsirali
    rw [kararlar, admitAll, kabul_iff, sayi_limitDb, anlar_limitDb, since_append, since_since le_rfl,
      hayni t List.mem_cons_self, ← since_append, demand]
    congr 1
    refine ih hkalan fun n hn => ?_
    rw [anlar_limitDb, since_append, since_since (pencereBasi_mono (ht n hn)),
      hayni n (List.mem_cons_of_mem t hn), ← since_append]

end Counters

/-- A request that is one too many in its window finds the window full of requests that were not. -/
structure ReddedilenSayilmaz (maxR window : ℤ) (zamanlar : List ℚ) : Prop where
  pencere : 0 ≤ window ∨ maxR ≠ 0 ∨ zamanlar = []
  dolu : ∀ once t sonra, zamanlar = once ++ t :: sonra →
    maxR < demand (pencereBasi window) once t →
      maxR ≤ (since (pencereBasi window t) (fitting (pencereBasi window) maxR [] once)).length

theorem demand_of_negative {window : ℤ} (hneg : window < 0) {once : List ℚ} {t : ℚ} (h : ∀ x ∈ once, x ≤ t) :
    since (pencereBasi window t) (once ++ [t]) = [] := by
  have hbas : t < pencereBasi window t := by
    have : (window : ℚ) < 0 := by exact_mod_cast hneg
    rw [pencereBasi]
    linarith
  rw [since, List.filter_eq_nil_iff]
  intro x hx
  rw [decide_eq_true_eq, not_le]
  rcases List.mem_append.mp hx with hx | hx
  · exact (h x hx).trans_lt hbas
  · rwa [List.mem_singleton.mp hx]

theorem settled_iff {maxR window : ℤ} {zamanlar : List ℚ} (hsirali : zamanlar.Pairwise (· ≤ ·)) :
    Settled (pencereBasi window) maxR [] [] zamanlar ↔ ReddedilenSayilmaz maxR window zamanlar := by
  simp only [Settled, List.nil_append]
  constructor
  · intro h
    refine ⟨?_, fun once t sonra hz hfazla => ?_⟩
    · rcases le_or_gt 0 window with hw | hw
      · exact .inl hw
      · cases zamanlar with
        | nil => exact .inr (.inr rfl)
        | cons t zamanlar =>
          refine .inr (.inl fun hsifir => ?_)
          have hbos : demand (pencereBasi window) [] t = 0 := by
            rw [demand, demand_of_negative hw (fun _ hx => absurd hx List.not_mem_nil)]
            rfl
          have hilk := h [] t zamanlar rfl
          rw [hbos, hsifir] at hilk
          exact lt_irrefl 0 (hilk.mp le_rfl)
    · have hyer := mt (h once t sonra hz).mpr (not_le.mpr hfazla)
      omega
  · rintro ⟨hpencere, hdolu⟩ once t sonra hz
    rcases le_or_gt 0 window with hw | hw
    · have hbas : pencereBasi window t ≤ t := by
        have : (0 : ℚ) ≤ window := by exact_mod_cast hw
        rw [pencereBasi]
        linarith
      refine ⟨room_of_demand hbas, fun hyer => ?_⟩
      by_contra hfazla
      have := hdolu once t sonra hz (not_le.mp hfazla)
      omega
    · have hsol : maxR ≠ 0 := by
        rcases hpencere with hn | hn | hn
        · omega
        · exact hn
        · rw [hn] at hz
          cases once with
          | nil => cases hz
          | cons => cases hz
      have honce : ∀ x ∈ once, x ≤ t := fun x hx => by
        rw [hz, List.pairwise_append] at hsirali
        exact hsirali.2.2 x hx t List.mem_cons_self
      have hbos := demand_of_negative hw honce
      have hsigan : since (pencereBasi window t) (fitting (pencereBasi window) maxR [] once) = [] :=
        List.eq_nil_of_sublist_nil (hbos ▸ since_sublist (fitting_sublist.trans (List.sublist_append_left once [t])))
      rw [demand, hbos, hsigan, List.length_nil]
      omega

/-- For requests in the order of time, the two limiters let the same ones through exactly when no window is
filled by requests that were refused. -/
theorem limiters_agree_iff (key : String) (maxR window : ℤ) {zamanlar : List ℚ}
    (hsirali : zamanlar.Pairwise (· ≤ ·)) :
    kararlar (limitMemory key maxR window) maxR window (fun _ => []) zamanlar =
        kararlar (limitDb true key maxR window) maxR window (fun _ => [], .empty) zamanlar ↔
      ReddedilenSayilmaz maxR window zamanlar := by
  have hbellek : kararlar (limitMemory key maxR window) maxR window (fun _ => []) zamanlar =
      admitted (pencereBasi window) maxR [] zamanlar :=
    kararlar_bellek hsirali List.Pairwise.nil (fun _ hx => absurd hx List.not_mem_nil) fun _ _ => rfl
  have hdb : kararlar (limitDb true key maxR window) maxR window (fun _ => [], .empty) zamanlar =
      admitAll (pencereBasi window) maxR [] zamanlar := kararlar_db hsirali fun _ _ => rfl
  rw [hbellek, hdb, admitted_eq_admitAll_iff, settled_iff hsirali]

theorem limiters_agree_iff_login :
    kararlar (limitMemory "login" 5 900) 5 900 (fun _ => []) [0, 100, 200] =
      kararlar (limitDb true "login" 5 900) 5 900 (fun _ => [], .empty) [0, 100, 200] :=
  (limiters_agree_iff "login" 5 900 (by decide +kernel)).mpr ⟨.inl (by decide), fun once t sonra hz hfazla => by
    have hle : demand (pencereBasi 900) once t ≤ 3 := by
      have hlen := congrArg List.length hz
      have := length_since_le (b := pencereBasi 900 t) (l := once ++ [t])
      simp only [List.length_append, List.length_cons, List.length_nil] at hlen this
      rw [demand]
      omega
    omega⟩

/-- A client that is refused once in its window is kept out by its own refused request. -/
theorem refused_request_filled_the_window :
    kararlar (limitMemory "oauth" 1 10) 1 10 (fun _ => []) [0, 6, 12] = [true, false, true] ∧
      kararlar (limitDb true "oauth" 1 10) 1 10 (fun _ => [], .empty) [0, 6, 12] = [true, false, false] := by
  constructor
  · decide +kernel
  · decide +kernel

/-- The requests of a client that were let through. -/
def kabulEdilenler (key : String) (gunluk : List Yanitlanan) : List ℚ :=
  (gunluk.filter fun y => y.bucketKey = key ∧ y.kabul).map Yanitlanan.an

/-- The instants of a client among the requests of all. -/
def zamanlari (key : String) (istekler : List (String × ℚ)) : List ℚ :=
  (istekler.filter fun i => i.1 = key).map Prod.snd

section Clients
variable {key : String} {maxR window : ℤ} {limitFor : String → ℤ × ℤ}

theorem limitMemory_congr {rate rate' : Sayaclar} (h : rate key = rate' key) (now : ℚ) :
    (limitMemory key maxR window now rate).1 = (limitMemory key maxR window now rate').1 ∧
      (limitMemory key maxR window now rate).2 key = (limitMemory key maxR window now rate').2 key := by
  simp only [limitMemory, h]
  split
  · simp only [Function.update_self, and_self]
  · simp only [Function.update_self, and_self]

/-- A counter is its client's own. -/
theorem limitMemory_other {diger : String} (h : key ≠ diger) (now : ℚ) (rate : Sayaclar) :
    (limitMemory diger maxR window now rate).2 key = rate key := by
  simp only [limitMemory]
  split
  · exact Function.update_of_ne h _ _
  · exact Function.update_of_ne h _ _

/-- What the others do changes nothing for a client. -/
theorem gunluk_istemci {rate rate' : Sayaclar} (h : rate key = rate' key) (istekler : List (String × ℚ)) :
    ((bellekGunlugu limitFor rate istekler).filter fun y => y.bucketKey = key).map (fun y => (y.an, y.kabul)) =
      (zamanlari key istekler).zip
        (kararlar (limitMemory key (limitFor key).1 (limitFor key).2) (limitFor key).1 (limitFor key).2 rate'
          (zamanlari key istekler)) := by
  induction istekler generalizing rate rate' with
  | nil => rfl
  | cons istek istekler ih =>
    obtain ⟨diger, now⟩ := istek
    rw [bellekGunlugu]
    by_cases hk : diger = key
    · subst hk
      have hz : zamanlari diger ((diger, now) :: istekler) = now :: zamanlari diger istekler := by
        rw [zamanlari, List.filter_cons_of_pos (by simp)]
        rfl
      obtain ⟨hsayi, hkalan⟩ := @limitMemory_congr diger (limitFor diger).1 (limitFor diger).2 rate rate' h now
      rw [hz, kararlar, List.zip_cons_cons, List.filter_cons_of_pos (by simp), List.map_cons, ih hkalan, hsayi]
    · have hz : zamanlari key ((diger, now) :: istekler) = zamanlari key istekler := by
        rw [zamanlari, List.filter_cons_of_neg (by simpa using hk)]
        rfl
      rw [hz, List.filter_cons_of_neg (by simpa using hk)]
      apply ih
      rw [limitMemory_other (Ne.symm hk)]
      exact h

theorem kabulEdilenler_eq (gunluk : List Yanitlanan) : kabulEdilenler key gunluk =
    passed ((gunluk.filter fun y => y.bucketKey = key).map fun y => (y.an, y.kabul)) := by
  rw [kabulEdilenler, passed, List.filter_map, List.filter_filter, List.map_map]
  congr 2
  funext y
  rw [Bool.decide_and, Bool.decide_eq_true, Bool.and_comm]
  rfl

theorem an_bellekGunlugu (rate : Sayaclar) (istekler : List (String × ℚ)) :
    (bellekGunlugu limitFor rate istekler).map Yanitlanan.an = istekler.map Prod.snd := by
  induction istekler generalizing rate with
  | nil => rfl
  | cons istek istekler ih => rw [bellekGunlugu, List.map_cons, List.map_cons, ih]

/-- The answers of a client, as its own requests settle them. -/
theorem gunluk_admitted {istekler : List (String × ℚ)} (h : (istekler.map Prod.snd).Pairwise (· ≤ ·)) :
    ((bellekGunlugu limitFor (fun _ => []) istekler).filter fun y => y.bucketKey = key).map
        (fun y => (y.an, y.kabul)) =
      (zamanlari key istekler).zip
        (admitted (pencereBasi (limitFor key).2) (limitFor key).1 [] (zamanlari key istekler)) := by
  have hsirali : (zamanlari key istekler).Pairwise (· ≤ ·) := h.sublist (List.filter_sublist.map Prod.snd)
  rw [gunluk_istemci rfl, kararlar_bellek hsirali List.Pairwise.nil (fun x hx => (List.not_mem_nil hx).elim)
    fun n _ => rfl]

end Clients

/-- In no stretch of time as long as its window are more requests of a client let through than its limit, and
a request is refused only when that many were let through in the window before it. -/
theorem accepted_within_limit (limitFor : String → ℤ × ℤ) {istekler : List (String × ℚ)}
    (hsirali : (istekler.map Prod.snd).Pairwise (· ≤ ·)) (key : String) :
    (∀ bas : ℚ, ((kabulEdilenler key (bellekGunlugu limitFor (fun _ => []) istekler)).filter fun t =>
        bas ≤ t ∧ t ≤ bas + (limitFor key).2).length ≤ (limitFor key).1.toNat) ∧
      ∀ (once : List Yanitlanan) (y : Yanitlanan) (sonra : List Yanitlanan),
        bellekGunlugu limitFor (fun _ => []) istekler = once ++ y :: sonra → y.bucketKey = key → y.kabul = false →
          (limitFor key).1.toNat ≤
            ((kabulEdilenler key once).filter fun t => y.an - ((limitFor key).2 : ℚ) ≤ t ∧ t ≤ y.an).length := by
  have hgunluk := @gunluk_admitted key limitFor istekler hsirali
  constructor
  · intro bas
    rw [kabulEdilenler_eq, hgunluk]
    have hwin (t : ℚ) (_ : bas ≤ t) (ht : t ≤ bas + (limitFor key).2) : pencereBasi (limitFor key).2 t ≤ bas := by
      rw [pencereBasi]
      linarith
    have hbos : (([] : List ℚ).filter fun t => bas ≤ t ∧ t ≤ bas + (limitFor key).2).length ≤
        (limitFor key).1.toNat := Nat.zero_le _
    exact passed_within hwin hbos
  · intro once y sonra hbol hkey hret
    have han := @an_bellekGunlugu limitFor (fun _ => []) istekler
    rw [hbol, List.map_append] at han
    rw [← han, List.pairwise_append] at hsirali
    rw [hbol, List.filter_append, List.filter_cons_of_pos (by simpa using hkey), List.map_append, List.map_cons,
      hret] at hgunluk
    have hdolu := full_of_refused hgunluk.symm
    rw [List.nil_append, ← kabulEdilenler_eq] at hdolu
    refine hdolu.trans_eq (congrArg List.length (List.filter_congr fun t ht => ?_))
    obtain ⟨z, hz, rfl⟩ := List.mem_map.mp ht
    have hle : z.an ≤ y.an := hsirali.2.2 _ (List.mem_map_of_mem (List.mem_of_mem_filter hz)) _
      (List.mem_map_of_mem List.mem_cons_self)
    rw [pencereBasi, decide_eq_decide]
    exact (and_iff_left hle).symm

/-- Two clients, one request in ten seconds each. -/
theorem accepted_within_limit_login :
    (∀ bas : ℚ, ((kabulEdilenler "login:a" (bellekGunlugu (fun _ => (1, 10)) (fun _ => [])
        [("login:a", 0), ("login:b", 3), ("login:a", 6), ("login:a", 12)])).filter fun t =>
          bas ≤ t ∧ t ≤ bas + ((10 : ℤ) : ℚ)).length ≤ 1) ∧
      ∀ (once : List Yanitlanan) (y : Yanitlanan) (sonra : List Yanitlanan),
        bellekGunlugu (fun _ => (1, 10)) (fun _ => [])
          [("login:a", 0), ("login:b", 3), ("login:a", 6), ("login:a", 12)] = once ++ y :: sonra →
            y.bucketKey = "login:a" → y.kabul = false →
              1 ≤ ((kabulEdilenler "login:a" once).filter fun t => y.an - ((10 : ℤ) : ℚ) ≤ t ∧ t ≤ y.an).length :=
  accepted_within_limit (fun _ => (1, 10)) (by norm_num) "login:a"

end FinancialOs.Guarantees
