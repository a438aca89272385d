import FinancialOs.Routers.CoachQuota

/-! The ledger of calls counts what went out to the providers: a message that is let through leaves a row for
each of its calls, and the ceiling is overshot by one message at most. -/
namespace FinancialOs.Guarantees
open Library Store Routers
variable {ayar : KotaAyari} {userId : ℕ} {gun : ℤ} {rows : Table ApiCallLog} {istek : KocIstegi}

/-- The message falls on the day that begins there. -/
structure Gununde (gun : ℤ) (istek : KocIstegi) : Prop where
  onAn : gunBaslangici istek.onAn = gun
  an : gunBaslangici istek.an = gun
  sayimAni : gunBaslangici istek.sayimAni = gun
  cagrilar : ∀ c ∈ istek.cagrilar, gunBaslangici c.2 = gun

/-- The user's rows of the day. -/
def gunlukSayi (userId : ℕ) (gun : ℤ) (rows : Table ApiCallLog) : ℕ := rows.count fun _ r => bugunku userId gun r

/-- The message is let through. -/
def Gecti (ayar : KotaAyari) (userId : ℕ) (rows : Table ApiCallLog) (istek : KocIstegi) : Prop :=
  ∃ rows', kocSohbet ayar userId rows istek = .ok rows'

/-- The row carries the provider, the tokens and the duration of the call, and its model if it has one. -/
structure Tasir (c : Cagri) (r : ApiCallLog) : Prop where
  saglayici : r.provider = c.saglayici
  tokensIn : r.tokensIn = c.tokensIn
  tokensOut : r.tokensOut = c.tokensOut
  sure : r.durationMs = c.sureMs
  model : ∀ m, doluYazi c.model = some m → r.model = m

/-- What a message leaves in the ledger. -/
structure DefterUyumu (ayar : KotaAyari) (userId : ℕ) (gun : ℤ) (rows : Table ApiCallLog) (istek : KocIstegi) :
    Prop where
  gecti : Gecti ayar userId rows istek ↔ gunlukSayi userId gun rows < ayar.tavan ∧
    paylasilanDolu ayar rows istek = false ∧ istek.kapasiteVar = true
  satirlar : Gecti ayar userId rows istek → ∃ yeni : List (ℕ × ApiCallLog),
    (kocAdimi ayar userId rows istek).rows = rows.rows ++ yeni ∧ yeni.length = max 1 istek.cagrilar.length ∧
      (∀ r ∈ yeni, bugunku userId gun r.2 = true) ∧
        ∀ (i : ℕ) (c : Cagri × ℤ), istek.cagrilar[i]? = some c → ∃ k r, yeni[i]? = some (k, r) ∧ Tasir c.1 r
  red : ¬ Gecti ayar userId rows istek → kocAdimi ayar userId rows istek = rows

section Specs

/-- The row of the reservation, as it stays. -/
def ilkSatir (ayar : KotaAyari) (userId : ℕ) (istek : KocIstegi) : ApiCallLog :=
  let satir := tamamlanan ayar istek (rezervasyonSatiri (istek.rezervasyon userId))
  match istek.cagrilar with
  | [] => satir
  | c :: _ => satiriDoldur ayar "koc" c.1 satir

theorem ekCagrilariUzlastir_ilk :
    ekCagrilariUzlastir ayar
      (rows.pushAbove istek.bosluk (tamamlanan ayar istek (rezervasyonSatiri (istek.rezervasyon userId)))) userId
      istek.cagrilar (some (rows.freshKey + istek.bosluk)) "koc" =
    satirlariEkle (rows.pushAbove istek.bosluk (ilkSatir ayar userId istek))
      (istek.cagrilar.tail.map (ekSatir ayar userId "koc")) := by
  rw [ilkSatir]
  cases istek.cagrilar with
  | nil => rfl
  | cons c kalan => rw [ekCagrilariUzlastir, Table.modify_pushAbove, List.tail_cons]

/-- A message is let through below the ceiling, unless the providers or the server are full. -/
theorem kocSohbet_eq (hgun : Gununde gun istek)
    (hizin : gunlukSayi userId gun rows < ayar.tavan ∧ paylasilanDolu ayar rows istek = false ∧
      istek.kapasiteVar = true) :
    kocSohbet ayar userId rows istek = .ok (satirlariEkle
      (rows.pushAbove istek.bosluk (ilkSatir ayar userId istek))
      (istek.cagrilar.tail.map (ekSatir ayar userId "koc"))) := by
  obtain ⟨hsayi, hdolu, hkapasite⟩ := hizin
  have hon : ¬ (ayar.tavan ≠ 0 ∧ ayar.tavan ≤ bugunkuCagriSayisi rows userId istek.onAn) := by
    rw [bugunkuCagriSayisi, hgun.onAn]
    exact fun h => absurd h.2 (not_le.mpr hsayi)
  have htek : rezerveEtTek ayar.tavan (istek.rezervasyon userId) rows =
      (rows.pushAbove istek.bosluk (rezervasyonSatiri (istek.rezervasyon userId)),
        .bitti (some (rows.freshKey + istek.bosluk))) := by
    have han : gunBaslangici istek.sayimAni ≤ istek.an := by
      rw [hgun.sayimAni, ← hgun.an]
      exact gunBaslangici_le _
    rw [rezerveEtTek_eq (by exact han), if_pos]
    · rfl
    · right
      rw [bugunkuCagriSayisi, show gunBaslangici (istek.rezervasyon userId).sayimAni = gun from hgun.sayimAni]
      exact hsayi
  simp only [kocSohbet, stopIf, if_neg hon, hdolu, hkapasite, htek, Table.modify_pushAbove, bind, Except.bind,
    pure, Except.pure]
  exact congrArg _ ekCagrilariUzlastir_ilk

theorem kocSohbet_red (ht : 0 < ayar.tavan) (hgun : Gununde gun istek)
    (hred : ¬ (gunlukSayi userId gun rows < ayar.tavan ∧ paylasilanDolu ayar rows istek = false ∧
      istek.kapasiteVar = true)) : ¬ Gecti ayar userId rows istek := by
  rintro ⟨rows', h⟩
  simp only [kocSohbet, bind_eq_ok, stopIf_eq_ok, exists_const] at h
  obtain ⟨hon, hdolu, hkapasite, -⟩ := h
  rw [bugunkuCagriSayisi, hgun.onAn] at hon
  refine hred ⟨?_, Bool.eq_false_of_not_eq_true hdolu, by simpa using hkapasite⟩
  by_contra hle
  exact hon ⟨ht.ne', not_lt.mp hle⟩

theorem tasir_satiriDoldur {amac : String} {c : Cagri} {satir : ApiCallLog} :
    Tasir c (satiriDoldur ayar amac c satir) where
  saglayici := rfl
  tokensIn := rfl
  tokensOut := rfl
  sure := rfl
  model m hm := by rw [satiriDoldur, hm, Option.getD_some]

theorem bugunku_ilkSatir (hgun : Gununde gun istek) : bugunku userId gun (ilkSatir ayar userId istek) = true := by
  have hsatir : bugunku userId gun (rezervasyonSatiri (istek.rezervasyon userId)) = true := by
    refine bugunku_rezervasyonSatiri (r := istek.rezervasyon userId) ?_
    rw [← hgun.an]
    exact gunBaslangici_le _
  rw [ilkSatir]
  cases istek.cagrilar <;> exact hsatir

theorem bugunku_ekSatir (hgun : Gununde gun istek) {c : Cagri × ℤ} (hc : c ∈ istek.cagrilar) {amac : String} :
    bugunku userId gun (ekSatir ayar userId amac c) = true := by
  refine decide_eq_true ⟨rfl, ?_⟩
  rw [← hgun.cagrilar c hc]
  exact gunBaslangici_le _

/-- The ledger is right about one message. -/
theorem defterUyumu (ht : 0 < ayar.tavan) (hgun : Gununde gun istek) : DefterUyumu ayar userId gun rows istek := by
  have hgecti : Gecti ayar userId rows istek ↔ gunlukSayi userId gun rows < ayar.tavan ∧
      paylasilanDolu ayar rows istek = false ∧ istek.kapasiteVar = true := by
    constructor
    · intro h
      by_contra hred
      exact kocSohbet_red ht hgun hred h
    · intro hizin
      exact ⟨_, kocSohbet_eq hgun hizin⟩
  refine ⟨hgecti, fun h => ?_, fun h => ?_⟩
  · have heq := kocSohbet_eq hgun (hgecti.mp h)
    obtain ⟨ekler, hrows, hmap⟩ := Table.rows_foldl_pushAbove
      (istek.cagrilar.tail.map (ekSatir ayar userId "koc"))
      (rows.pushAbove istek.bosluk (ilkSatir ayar userId istek))
    have hlen : ekler.length = istek.cagrilar.length - 1 := by
      rw [← List.length_map (f := Prod.snd), hmap, List.length_map, List.length_tail]
    refine ⟨(rows.freshKey + istek.bosluk, ilkSatir ayar userId istek) :: ekler, ?_, ?_, ?_, fun i c hc => ?_⟩
    · rw [kocAdimi, heq]
      change (satirlariEkle _ _).rows = _
      rw [satirlariEkle, hrows, Table.pushAbove, List.append_assoc, List.singleton_append]
    · rw [List.length_cons, hlen]
      omega
    · refine List.forall_mem_cons.mpr ⟨bugunku_ilkSatir hgun, fun r hr => ?_⟩
      have hr' : r.2 ∈ istek.cagrilar.tail.map (ekSatir ayar userId "koc") := hmap ▸ List.mem_map_of_mem hr
      obtain ⟨c, hc, he⟩ := List.mem_map.mp hr'
      rw [← he]
      exact bugunku_ekSatir hgun (List.mem_of_mem_tail hc)
    · cases i with
      | zero =>
        refine ⟨_, _, List.getElem?_cons_zero, ?_⟩
        rw [ilkSatir]
        cases hl : istek.cagrilar with
        | nil =>
          rw [hl] at hc
          cases hc
        | cons d kalan =>
          rw [hl, List.getElem?_cons_zero, Option.some.injEq] at hc
          subst hc
          exact tasir_satiriDoldur
      | succ i =>
        have hek : (ekler.map Prod.snd)[i]? = some (ekSatir ayar userId "koc" c) := by
          rw [hmap, List.getElem?_map, List.getElem?_tail, hc]
          rfl
        rw [List.getElem?_map, Option.map_eq_some_iff] at hek
        obtain ⟨⟨k, r⟩, hr, he⟩ := hek
        refine ⟨k, r, by rw [List.getElem?_cons_succ, hr], ?_⟩
        rw [show r = ekSatir ayar userId "koc" c from he]
        exact tasir_satiriDoldur
  · rw [kocAdimi]
    cases hk : kocSohbet ayar userId rows istek with
    | error e => rfl
    | ok rows' => exact absurd ⟨rows', hk⟩ h

/-- A message that is let through adds its calls, and one row if it makes none. -/
theorem gunlukSayi_gecti (ht : 0 < ayar.tavan) (hgun : Gununde gun istek) (h : Gecti ayar userId rows istek) :
    gunlukSayi userId gun (kocAdimi ayar userId rows istek) =
      gunlukSayi userId gun rows + max 1 istek.cagrilar.length := by
  obtain ⟨yeni, hrows, hlen, hbugun, -⟩ := (defterUyumu ht hgun).satirlar h
  rw [gunlukSayi, Table.count, hrows, List.filter_append, List.length_append, List.filter_eq_self.mpr hbugun, hlen]
  rfl

end Specs

/-- The last message that was let through, and the rest of the run behind it. -/
structure SonGecen (ayar : KotaAyari) (userId : ℕ) (rows : Table ApiCallLog) (istekler : List KocIstegi)
    (son : KocIstegi) : Prop where
  ayir : ∃ once sonra, istekler = once ++ son :: sonra ∧ Gecti ayar userId (run (kocAdimi ayar userId) rows once) son ∧
    StepsMeet (kocAdimi ayar userId) (fun r k => ¬ Gecti ayar userId r k)
      (run (kocAdimi ayar userId) rows (once ++ [son])) sonra

/-- In a run either nothing is let through, and the ledger stays, or the day's rows stay below the ceiling
but for the calls of the last message that was. -/
theorem overshoot_of_run (ht : 0 < ayar.tavan) (istekler : List KocIstegi) (hgun : ∀ k ∈ istekler, Gununde gun k) :
    StepsMeet (kocAdimi ayar userId) (fun r k => ¬ Gecti ayar userId r k) rows istekler ∧
      run (kocAdimi ayar userId) rows istekler = rows ∨
    ∃ son, SonGecen ayar userId rows istekler son ∧
      gunlukSayi userId gun (run (kocAdimi ayar userId) rows istekler) ≤
        ayar.tavan - 1 + max 1 son.cagrilar.length := by
  induction istekler generalizing rows with
  | nil => exact .inl ⟨trivial, rfl⟩
  | cons istek istekler ih =>
    obtain ⟨hilk, hkalan⟩ := List.forall_mem_cons.mp hgun
    rcases @ih (kocAdimi ayar userId rows istek) hkalan with ⟨hred, hrun⟩ | ⟨son, ⟨once, sonra, rfl, hg, hs⟩, hle⟩
    · by_cases hg : Gecti ayar userId rows istek
      · refine .inr ⟨istek, ⟨[], istekler, rfl, hg, hred⟩, ?_⟩
        rw [run_cons, hrun, gunlukSayi_gecti ht hilk hg]
        have := ((defterUyumu ht hilk).gecti.mp hg).1
        omega
      · have hayni : kocAdimi ayar userId rows istek = rows := (defterUyumu ht hilk).red hg
        refine .inl ⟨⟨hg, hred⟩, ?_⟩
        rw [run_cons, hrun, hayni]
    · exact .inr ⟨son, ⟨istek :: once, sonra, rfl, hg, hs⟩, hle⟩

/-- Over a day's messages of a user, one after another: each is let through below the ceiling where the
providers and the server have room, leaves a row for each of its calls, or none if it is refused; and the day's
rows pass the ceiling by the calls of one message at most. -/
theorem ledger_counts_calls (ayar : KotaAyari) (ht : 0 < ayar.tavan) (userId : ℕ) (gun : ℤ)
    (rows : Table ApiCallLog) (istekler : List KocIstegi) (hgun : ∀ k ∈ istekler, Gununde gun k) :
    StepsMeet (kocAdimi ayar userId) (DefterUyumu ayar userId gun) rows istekler ∧
      (StepsMeet (kocAdimi ayar userId) (fun r k => ¬ Gecti ayar userId r k) rows istekler ∧
          run (kocAdimi ayar userId) rows istekler = rows ∨
        ∃ son, SonGecen ayar userId rows istekler son ∧
          gunlukSayi userId gun (run (kocAdimi ayar userId) rows istekler) ≤
            ayar.tavan - 1 + max 1 son.cagrilar.length) := by
  refine ⟨?_, overshoot_of_run ht istekler hgun⟩
  induction istekler generalizing rows with
  | nil => trivial
  | cons istek istekler ih =>
    obtain ⟨hilk, hkalan⟩ := List.forall_mem_cons.mp hgun
    exact ⟨defterUyumu ht hilk, ih _ hkalan⟩

def tekMesajAyari : KotaAyari := ⟨1, fun _ => none, fun _ _ => 0, fun _ => none, id⟩

/-- A message on the first day; the server has a slot for it or not. -/
def ilkGunMesaji (kapasiteVar : Bool) (cagrilar : List (Cagri × ℤ)) : KocIstegi where
  provider := "groq"
  model := "?"
  alternatifVar := false
  kapasiteVar := kapasiteVar
  onAn := 0
  an := 0
  sayimAni := 0
  bosluk := 0
  cagrilar := cagrilar
  success := true
  providerUsed := none
  durationMs := 9
  toolCallsCount := 0
  errorMessage := none

/-- Two calls where one was left; the next message is refused. -/
theorem ledger_counts_calls_ikiCagri :
    let c : Cagri := ⟨"groq", some "m", some 5, some 7, some 3⟩
    StepsMeet (kocAdimi tekMesajAyari 1) (DefterUyumu tekMesajAyari 1 0) .empty
      [ilkGunMesaji true [(c, 1), (c, 2)], ilkGunMesaji true []] := by
  intro c
  refine (ledger_counts_calls tekMesajAyari (by decide) 1 0 .empty _ fun k hk => ?_).1
  have hbas : gunBaslangici 0 = 0 ∧ gunBaslangici 1 = 0 ∧ gunBaslangici 2 = 0 := by decide
  rcases List.mem_pair.mp hk with rfl | rfl
  · refine ⟨hbas.1, hbas.1, hbas.1, fun d hd => ?_⟩
    rcases List.mem_pair.mp hd with rfl | rfl
    · exact hbas.2.1
    · exact hbas.2.2
  · exact ⟨hbas.1, hbas.1, hbas.1, fun d hd => absurd hd List.not_mem_nil⟩

/-- A message is refused below the ceiling where the server has no slot, and one without a call takes a row
all the same. -/
theorem full_server_and_silent_message :
    let sessiz := ilkGunMesaji true []
    (gunlukSayi 1 0 .empty < tekMesajAyari.tavan ∧ ¬ Gecti tekMesajAyari 1 .empty (ilkGunMesaji false [])) ∧
      Gecti tekMesajAyari 1 .empty sessiz ∧ ¬ gunlukSayi 1 0 (kocAdimi tekMesajAyari 1 .empty sessiz) ≤
        tekMesajAyari.tavan - 1 + sessiz.cagrilar.length := by
  intro sessiz
  refine ⟨⟨by decide, ?_⟩, ?_, by decide +kernel⟩
  · rintro ⟨rows', h⟩
    have hnone : (kocSohbet tekMesajAyari 1 .empty (ilkGunMesaji false [])).toOption.isNone = true := by
      decide +kernel
    rw [h] at hnone
    cases hnone
  · have hsome : (kocSohbet tekMesajAyari 1 .empty sessiz).toOption.isSome = true := by decide +kernel
    cases hk : kocSohbet tekMesajAyari 1 .empty sessiz with
    | ok rows' => exact ⟨rows', hk⟩
    | error e =>
      rw [hk] at hsome
      cases hsome

end FinancialOs.Guarantees
