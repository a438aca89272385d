import FinancialOs.Routers.RequestLimits

/-! What an application behind the ceiling on request bodies receives of a stream, whatever the application does and
however the body is cut into messages. -/
namespace FinancialOs.Guarantees
open Library Routers

/-- The bytes of body that a message brings. -/
def govdeBayti : Except AsgiHatasi AsgiMesaji → ℕ
  | .ok (.httpRequest body _) => (body.getD []).length
  | _ => 0

def toplamBayt (akis : AsgiAkisi) : ℕ := (akis.map govdeBayti).sum

/-- A message of the body is refused, another one passes. -/
def govdesiz (azami : ℕ) : Except AsgiHatasi AsgiMesaji → Except AsgiHatasi AsgiMesaji
  | .ok (.httpRequest _ _) => .error (.govdeCokBuyuk azami)
  | m => m

/-- What is left of a stream under a ceiling: all of it, or the front that fits, and behind that only what is no
body. -/
structure Kirpilmis (azami : ℕ) (akis gorulen : AsgiAkisi) : Prop where
  sinirli : toplamBayt gorulen ≤ azami
  seffaf : toplamBayt akis ≤ azami → gorulen = akis
  kesilir : azami < toplamBayt akis → ∃ on m son, akis = on ++ m :: son ∧ toplamBayt on ≤ azami ∧
    azami < toplamBayt (on ++ [m]) ∧ gorulen = on ++ (m :: son).map (govdesiz azami)

section Streams
variable {azami okunan : ℕ} {m : Except AsgiHatasi AsgiMesaji} {akis : AsgiAkisi}

@[simp] theorem toplamBayt_nil : toplamBayt [] = 0 := rfl

@[simp] theorem toplamBayt_cons (m : Except AsgiHatasi AsgiMesaji) (akis : AsgiAkisi) :
    toplamBayt (m :: akis) = govdeBayti m + toplamBayt akis := List.sum_cons

@[simp] theorem toplamBayt_append (on son : AsgiAkisi) : toplamBayt (on ++ son) = toplamBayt on + toplamBayt son := by
  rw [toplamBayt, List.map_append, List.sum_append]
  rfl

theorem sayanReceive_eq (azami okunan : ℕ) (m : Except AsgiHatasi AsgiMesaji) : sayanReceive azami okunan m =
    (okunan + govdeBayti m, if azami < okunan + govdeBayti m then govdesiz azami m else m) := by
  rcases m with e | (⟨body, more⟩ | tur)
  · simp [sayanReceive, govdeBayti, govdesiz]
  · rfl
  · simp [sayanReceive, govdeBayti, govdesiz]

theorem govdeBayti_govdesiz (azami : ℕ) (m : Except AsgiHatasi AsgiMesaji) : govdeBayti (govdesiz azami m) = 0 := by
  rcases m with e | (⟨body, more⟩ | tur) <;> rfl

theorem toplamBayt_govdesiz (azami : ℕ) (akis : AsgiAkisi) : toplamBayt (akis.map (govdesiz azami)) = 0 := by
  induction akis with
  | nil => rfl
  | cons m akis ih => rw [List.map_cons, toplamBayt_cons, govdeBayti_govdesiz, ih]

/-- As long as the stream fits, it passes. -/
theorem filtered_sigar (h : okunan + toplamBayt akis ≤ azami) :
    Talk.filtered (sayanReceive azami) okunan akis = akis := by
  refine @Talk.filtered_eq_self _ _ _ _ okunan (fun okunan akis => okunan + toplamBayt akis ≤ azami) ?_ akis h
  intro okunan m akis h
  rw [toplamBayt_cons] at h
  rw [sayanReceive_eq]
  exact ⟨if_neg (by omega), by omega⟩

/-- Beyond the ceiling no body passes any more. -/
theorem filtered_asildi (h : azami < okunan) :
    Talk.filtered (sayanReceive azami) okunan akis = akis.map (govdesiz azami) := by
  induction akis generalizing okunan with
  | nil => rfl
  | cons m akis ih =>
    have hson : azami < okunan + govdeBayti m := by omega
    rw [Talk.filtered, List.map_cons, sayanReceive_eq]
    dsimp only
    rw [if_pos hson, ih hson]

/-- The message that goes beyond the ceiling, with what is before it and behind it. -/
theorem filtered_kesilir (hokunan : okunan ≤ azami) (h : azami < okunan + toplamBayt akis) :
    ∃ on m son, akis = on ++ m :: son ∧ okunan + toplamBayt on ≤ azami ∧ azami < okunan + toplamBayt (on ++ [m]) ∧
      Talk.filtered (sayanReceive azami) okunan akis = on ++ (m :: son).map (govdesiz azami) := by
  induction akis generalizing okunan with
  | nil =>
    rw [toplamBayt_nil] at h
    omega
  | cons m akis ih =>
    rw [toplamBayt_cons] at h
    by_cases hson : azami < okunan + govdeBayti m
    · refine ⟨[], m, akis, rfl, hokunan, by simpa using hson, ?_⟩
      rw [Talk.filtered, sayanReceive_eq]
      dsimp only
      rw [if_pos hson, filtered_asildi hson]
      rfl
    · obtain ⟨on, n, son, rfl, hon, hasilir, hgorulen⟩ := @ih (okunan + govdeBayti m) (by omega) (by omega)
      simp only [toplamBayt_append, toplamBayt_cons, toplamBayt_nil] at hasilir
      refine ⟨m :: on, n, son, rfl, ?_, ?_, ?_⟩
      · rw [toplamBayt_cons]
        omega
      · simp only [List.cons_append, toplamBayt_cons, toplamBayt_append, toplamBayt_nil]
        omega
      · rw [Talk.filtered, sayanReceive_eq]
        dsimp only
        rw [if_neg hson, hgorulen]
        rfl

theorem kirpilmis_filtered (azami : ℕ) (akis : AsgiAkisi) :
    Kirpilmis azami akis (Talk.filtered (sayanReceive azami) 0 akis) := by
  have hkesilir (h : azami < toplamBayt akis) := @filtered_kesilir azami 0 akis (Nat.zero_le azami) (by omega)
  refine ⟨?_, fun h => filtered_sigar (by omega), fun h => ?_⟩
  · by_cases h : azami < toplamBayt akis
    · obtain ⟨on, m, son, -, hon, -, hgorulen⟩ := hkesilir h
      rw [hgorulen, toplamBayt_append, toplamBayt_govdesiz]
      omega
    · rw [filtered_sigar (by omega)]
      omega
  · obtain ⟨on, m, son, hakis, hon, hasilir, hgorulen⟩ := hkesilir h
    exact ⟨on, m, son, hakis, by omega, by omega, hgorulen⟩

end Streams

/-- Whatever the environment says there is a ceiling, and whatever the application does with what it receives and the
client sends: a body that is announced as too large is answered with 413, and nothing of it is read; any other request
runs as the application alone would run on a stream that holds no more bytes of body than the ceiling, and that is the
client's own stream when that fits. -/
theorem oversized_body_never_arrives (ortam : Option String) (app : AsgiScope → AsgiApp) (scope : AsgiScope)
    (akis : AsgiAkisi) :
    let azami := azamiGovdeBayt ortam
    let g := (govdeBoyutuMiddleware ortam app scope).run akis
    0 < azami ∧
    if scope.tur ≠ "http" then g = (app scope).run akis
    else if (icerikUzunlugu scope).any fun uzunluk => (azami : ℤ) < uzunluk then g = ⟨govdeReddi azami, 0, some (.ok ())⟩
    else ∃ gorulen, g = (app scope).run gorulen ∧ Kirpilmis azami akis gorulen := by
  intro azami g
  have hg : g = (govdeBoyutuMiddleware ortam app scope).run akis := rfl
  rw [govdeBoyutuMiddleware] at hg
  refine ⟨azamiGovdeBayt_pos ortam, ?_⟩
  split_ifs with hhttp hilan
  · rw [hg, if_pos hhttp]
  · rw [hg, if_neg hhttp, if_pos hilan]
    rfl
  · rw [hg, if_neg hhttp, if_neg hilan]
    exact ⟨_, Talk.run_behind _ _ _, kirpilmis_filtered azami akis⟩

end FinancialOs.Guarantees
