import FinancialOs.Library.ToolDialogues
import FinancialOs.Library.TransitionRuns
import FinancialOs.Routers.CoachHistory

/-! The history that a provider gets is a window into the memory. The messages of a turn are a whole exchange;
the window can cut one, and what is left of it are answers without a call. One adapter drops them, the other one
relies on the trim, which only looks at a history that is too long. -/
namespace FinancialOs.Guarantees
open Library Store Routers

section Reading

def cagriSozu : List ToolCall → Speech (Option String)
  | [] => .plain
  | tcs => .calls (tcs.map fun tc => some tc.id)

/-- The part a message plays. -/
def satirSozu (m : Mesaj) : Speech (Option String) :=
  match m.role with
  | .tool => .answer m.toolCallId
  | .assistant => cagriSozu (adliCagrilar m)
  | .user => .plain

def openAiSozu (m : OpenAiMesaj) : Speech (Option String) :=
  match m.role with
  | .tool => .answer m.toolCallId
  | _ => m.toolCalls.elim .plain fun tcs => .calls (tcs.map fun tc => some tc.id)

def blokCagrisi : AnthropicBlok → Option (Option String)
  | .toolUse id _ _ => some (some id)
  | _ => none

def blokYaniti : AnthropicBlok → Option (Option String)
  | .toolResult id _ => some id
  | _ => none

/-- A message of results is one answer for each of them. -/
def anthropicSozleri (m : AnthropicMesaj) : List (Speech (Option String)) :=
  match m.content with
  | .metin _ => [.plain]
  | .bloklar bs =>
    let yanitlar := bs.filterMap blokYaniti
    let cagrilar := bs.filterMap blokCagrisi
    if yanitlar ≠ [] then yanitlar.map .answer else if cagrilar ≠ [] then [.calls cagrilar] else [.plain]

theorem openAiSozu_openAiMesaji (m : Mesaj) : openAiSozu (openAiMesaji m) = satirSozu m := by
  obtain ⟨role, content, calls, callId⟩ := m
  cases role with
  | user => cases calls <;> rfl
  | tool => rfl
  | assistant =>
    cases calls with
    | none => rfl
    | some tcs =>
      cases hadli : adliCagrilar ⟨.assistant, content, some tcs, callId⟩ with
      | nil => simp [openAiMesaji, openAiSozu, satirSozu, cagriSozu, hadli]
      | cons tc tcs => simp [openAiMesaji, openAiSozu, satirSozu, cagriSozu, hadli]

/-- The plain messages without a text, which one of the adapters leaves out. -/
def bosMesaj (m : Mesaj) : Bool :=
  m.content = "" ∧ m.role ≠ .tool ∧ ¬ (m.role = .assistant ∧ m.toolCallsJson.isSome)

private theorem filterMap_cagriBloklari (m : Mesaj) :
    (cagriBloklari m).filterMap blokYaniti = [] ∧
      (cagriBloklari m).filterMap blokCagrisi = (adliCagrilar m).map fun tc => some tc.id := by
  have hyanit (tcs : List ToolCall) :
      (tcs.map fun tc => AnthropicBlok.toolUse tc.id tc.name tc.args).filterMap blokYaniti = [] := by
    rw [List.filterMap_map]
    exact List.filterMap_eq_nil_iff.mpr fun _ _ => rfl
  have hcagri (tcs : List ToolCall) :
      (tcs.map fun tc => AnthropicBlok.toolUse tc.id tc.name tc.args).filterMap blokCagrisi =
        tcs.map fun tc => some tc.id := by
    rw [List.filterMap_map, ← List.filterMap_eq_map]
    rfl
  have hmetin : ∀ bs : List AnthropicBlok, bs = [] ∨ bs = [.text m.content] →
      bs.filterMap blokYaniti = [] ∧ bs.filterMap blokCagrisi = [] := by
    rintro bs (rfl | rfl) <;> exact ⟨rfl, rfl⟩
  obtain ⟨hmy, hmc⟩ := hmetin (if m.content = "" then [] else [.text m.content]) (by split <;> simp)
  rw [cagriBloklari]
  by_cases hbos : (if m.content = "" then [] else [AnthropicBlok.text m.content]) ++
      (adliCagrilar m).map (fun tc => AnthropicBlok.toolUse tc.id tc.name tc.args) = []
  · rw [if_pos hbos, List.map_eq_nil_iff.mp (List.append_eq_nil_iff.mp hbos).2]
    exact ⟨rfl, rfl⟩
  · rw [if_neg hbos, List.filterMap_append, List.filterMap_append, hyanit, hcagri, hmy, hmc]
    exact ⟨rfl, rfl⟩

theorem sozler_anthropicMesaji (m : Mesaj) :
    (anthropicMesaji m).elim [] anthropicSozleri = if bosMesaj m then [] else [satirSozu m] := by
  obtain ⟨role, content, calls, callId⟩ := m
  cases role with
  | user => by_cases hc : content = "" <;> simp [anthropicMesaji, anthropicSozleri, bosMesaj, satirSozu, hc]
  | tool => simp [anthropicMesaji, anthropicSozleri, bosMesaj, satirSozu, blokYaniti]
  | assistant =>
    cases calls with
    | none =>
      by_cases hc : content = "" <;>
        simp [anthropicMesaji, anthropicSozleri, bosMesaj, satirSozu, adliCagrilar, cagriSozu, hc]
    | some tcs =>
      obtain ⟨hyanit, hcagri⟩ := filterMap_cagriBloklari ⟨.assistant, content, some tcs, callId⟩
      cases hadli : adliCagrilar ⟨.assistant, content, some tcs, callId⟩ with
      | nil => simp [anthropicMesaji, anthropicSozleri, bosMesaj, satirSozu, cagriSozu, hyanit, hcagri, hadli]
      | cons tc tcs => simp [anthropicMesaji, anthropicSozleri, bosMesaj, satirSozu, cagriSozu, hyanit, hcagri, hadli]

end Reading

section Trimming

theorem kirpmayaDevam_suffix (ms : List Mesaj) :
    kirpmayaDevam ms <:+ ms ∧ ∀ m ∈ (kirpmayaDevam ms).head?, yetimMi m = false := by
  induction ms with
  | nil => exact ⟨List.suffix_rfl, nofun⟩
  | cons m ms ih =>
    rw [kirpmayaDevam]
    split
    · exact ⟨ih.1.trans (List.suffix_cons m ms), ih.2⟩
    · next hyetim =>
      split
      · exact ⟨ih.1.trans (List.suffix_cons m ms), ih.2⟩
      · refine ⟨List.suffix_rfl, fun a ha => ?_⟩
        obtain rfl := Option.some.inj ha
        exact Bool.eq_false_of_not_eq_true hyetim

/-- A history that is too long loses its first messages, and no tool message is left in front. -/
theorem trimHistoryToSize_cases (ms : List Mesaj) :
    (toplamUzunluk ms ≤ maxTotalHistoryChars ∨ ms.length ≤ 1) ∧ trimHistoryToSize ms = ms ∨
    maxTotalHistoryChars < toplamUzunluk ms ∧ trimHistoryToSize ms <:+ ms ∧
      ∀ m ∈ (trimHistoryToSize ms).head?, yetimMi m = false := by
  unfold trimHistoryToSize
  split
  · next hkisa => exact .inl ⟨.inl hkisa, rfl⟩
  · next huzun =>
    cases ms with
    | nil => exact .inl ⟨.inr (Nat.zero_le 1), rfl⟩
    | cons a ms =>
      cases ms with
      | nil => exact .inl ⟨.inr le_rfl, rfl⟩
      | cons m ms =>
        obtain ⟨hson, hbas⟩ := kirpmayaDevam_suffix (m :: ms)
        exact .inr ⟨not_le.mp huzun, hson.trans (List.suffix_cons a _), hbas⟩

end Trimming

section Memory
variable {saat : Saat}

/-- A message as it is shown later on. -/
def kisalt (m : Mesaj) : Mesaj := { m with content := truncateLongMessage m.content m.role }

theorem satirSozu_kisalt (m : Mesaj) : satirSozu (kisalt m) = satirSozu m := by
  obtain ⟨role, content, calls, callId⟩ := m
  cases role <;> rfl

/-- Everything a user and the coach have said to each other. -/
def tumMesajlar (s : KocDb) (userId : ℕ) : List Mesaj :=
  ((s.memories.rows.map Prod.snd).filter fun m => m.userId = userId).map fun m => kisalt m.toMesaj

def yanitlar (ms : List Mesaj) : List (Option String) := ms.flatMap fun m => (satirSozu m).answered

/-- What every turn keeps: the rows are in the order of the clock, a user's messages are whole exchanges, and no
identifier of a call is used twice. -/
structure HafizaDuzgun (saat : Saat) (s : KocDb) : Prop where
  sirali : (s.memories.rows.map Prod.snd).Pairwise fun a b => a.timestamp < b.timestamp
  gecmiste : ∀ r ∈ s.memories.rows, r.2.timestamp < saat.an s.memories.rows.length
  konusma : ∀ u, Exchanges satirSozu (tumMesajlar s u)
  tekil : ∀ u, (yanitlar (tumMesajlar s u)).Nodup
  bilinen : ∀ u, ∀ id ∈ yanitlar (tumMesajlar s u), ∃ k < s.pendings.freshKey, id = some (callId k)
  adli : ∀ u, ∀ m ∈ tumMesajlar s u, ∀ tc ∈ m.toolCallsJson.getD [], tc.name ≠ ""

theorem callId_injective : Function.Injective callId := by
  intro a b h
  have hrepr : (Nat.repr a).toList = (Nat.repr b).toList := by
    have hlist := congrArg String.toList h
    rw [callId, callId, String.toList_append, String.toList_append] at hlist
    exact List.append_cancel_left hlist
  rw [Nat.toList_repr, Nat.toList_repr] at hrepr
  have hdeger := congrArg (fun l => Nat.ofDigitChars 10 l 0) hrepr
  simpa only [Nat.ofDigitChars_ten_toDigits] using hdeger

/-- The proposals of a turn get keys of their own. -/
theorem onerileriYaz_keys (t : Table PendingAction) (l : List (ℕ × PendingAction)) :
    t.freshKey ≤ (onerileriYaz t l).1.freshKey ∧ ((onerileriYaz t l).2.map Prod.fst).Nodup ∧
      ∀ a ∈ (onerileriYaz t l).2, t.freshKey ≤ a.1 ∧ a.1 < (onerileriYaz t l).1.freshKey := by
  induction l generalizing t with
  | nil => exact ⟨le_rfl, List.nodup_nil, fun a ha => absurd ha List.not_mem_nil⟩
  | cons p l ih =>
    obtain ⟨bosluk, row⟩ := p
    obtain ⟨hle, hnodup, haralik⟩ := ih (t.pushAbove bosluk row)
    have hyeni : t.freshKey + bosluk < (t.pushAbove bosluk row).freshKey :=
      Table.lt_freshKey (a := row) (by rw [Table.get?_pushAbove, if_pos rfl])
    refine ⟨by simp only [onerileriYaz]; omega, ?_, fun a ha => ?_⟩
    · rw [onerileriYaz, List.map_cons, List.nodup_cons]
      refine ⟨fun hmem => ?_, hnodup⟩
      obtain ⟨a, ha, he⟩ := List.mem_map.mp hmem
      have := haralik a ha
      dsimp only at he
      omega
    · simp only [onerileriYaz] at ha ⊢
      rcases List.mem_cons.mp ha with rfl | ha
      · dsimp only
        omega
      · have := haralik a ha
        omega

theorem tumMesajlar_saveMessage (u v : ℕ) (s : KocDb) (m : Mesaj × Option (List ℕ)) :
    tumMesajlar (saveMessage saat u s m) v = tumMesajlar s v ++
      if u = v then [kisalt m.1] else [] := by
  have hrows : (saveMessage saat u s m).memories.rows.map Prod.snd =
      s.memories.rows.map Prod.snd ++ [⟨m.1, u, m.2, saat.an s.memories.rows.length⟩] := List.map_append
  rw [tumMesajlar, hrows, List.filter_append, List.map_append]
  by_cases hu : u = v
  · subst hu
    rw [if_pos rfl, List.filter_cons, if_pos (decide_eq_true rfl)]
    rfl
  · rw [if_neg hu, List.filter_cons, if_neg (by simpa using hu)]
    rfl

theorem tumMesajlar_foldl (u v : ℕ) (ms : List (Mesaj × Option (List ℕ))) (s : KocDb) :
    tumMesajlar (ms.foldl (saveMessage saat u) s) v = tumMesajlar s v ++
      if u = v then ms.map fun m => kisalt m.1 else [] := by
  induction ms generalizing s with
  | nil => rw [List.foldl_nil, List.map_nil, ite_self, List.append_nil]
  | cons m ms ih =>
    rw [List.foldl_cons, ih, tumMesajlar_saveMessage, List.append_assoc]
    split <;> rfl

/-- The clock goes on from save to save. -/
theorem sirali_foldl (u : ℕ) (ms : List (Mesaj × Option (List ℕ))) {s : KocDb}
    (hs : (s.memories.rows.map Prod.snd).Pairwise fun a b => a.timestamp < b.timestamp)
    (hg : ∀ r ∈ s.memories.rows, r.2.timestamp < saat.an s.memories.rows.length) :
    ((ms.foldl (saveMessage saat u) s).memories.rows.map Prod.snd).Pairwise (fun a b => a.timestamp < b.timestamp) ∧
      ∀ r ∈ (ms.foldl (saveMessage saat u) s).memories.rows,
        r.2.timestamp < saat.an (ms.foldl (saveMessage saat u) s).memories.rows.length := by
  induction ms generalizing s with
  | nil => exact ⟨hs, hg⟩
  | cons m ms ih =>
    have hrows : (saveMessage saat u s m).memories.rows = s.memories.rows ++
        [(s.memories.freshKey, ⟨m.1, u, m.2, saat.an s.memories.rows.length⟩)] := rfl
    refine ih ?_ fun r hr => ?_
    · rw [hrows, List.map_append, List.pairwise_append]
      refine ⟨hs, List.pairwise_singleton _ _, fun a ha b hb => ?_⟩
      obtain ⟨r, hr, rfl⟩ := List.mem_map.mp ha
      rw [List.mem_singleton.mp hb]
      exact hg r hr
    · rw [hrows, List.length_append]
      have hileri : saat.an s.memories.rows.length < saat.an (s.memories.rows.length + 1) :=
        saat.artar (Nat.lt_succ_self _)
      rw [hrows] at hr
      rcases List.mem_append.mp hr with hr | hr
      · exact (hg r hr).trans hileri
      · rw [List.mem_singleton.mp hr]
        exact hileri

theorem pendings_foldl (u : ℕ) (ms : List (Mesaj × Option (List ℕ))) (s : KocDb) :
    (ms.foldl (saveMessage saat u) s).pendings = s.pendings := by
  induction ms generalizing s with
  | nil => rfl
  | cons m ms ih => rw [List.foldl_cons, ih]; rfl

/-- What a turn adds to what its user sees. -/
def eklenen (tur : KocTuru) (proposed : List (ℕ × PendingAction)) : List Mesaj :=
  (turMesajlari tur proposed).map fun m => kisalt m.1

variable {tur : KocTuru} {proposed : List (ℕ × PendingAction)}

theorem adliCagrilar_cagriMesaji (cleanText : String) :
    adliCagrilar (cagriMesaji cleanText proposed) =
      proposed.map fun a => ⟨callId a.1, "propose_action", a.2.payload⟩ := by
  refine List.filter_eq_self.mpr fun tc htc => ?_
  obtain ⟨a, -, rfl⟩ := List.mem_map.mp htc
  rfl

theorem satirSozu_cagriMesaji (cleanText : String) (h : proposed ≠ []) :
    satirSozu (cagriMesaji cleanText proposed) = .calls (proposed.map fun a => some (callId a.1)) := by
  change cagriSozu (adliCagrilar (cagriMesaji cleanText proposed)) = _
  rw [adliCagrilar_cagriMesaji]
  cases proposed with
  | nil => exact absurd rfl h
  | cons a l =>
    rw [List.map_cons, cagriSozu, List.map_cons, List.map_map]
    · rfl
    · nofun

/-- The messages of a turn are an exchange. -/
theorem exchanges_eklenen (h : (proposed.map Prod.fst).Nodup) : Exchanges satirSozu (eklenen tur proposed) := by
  refine Exchanges.map ?_
  have hread : satirSozu ∘ (fun m : Mesaj × Option (List ℕ) => kisalt m.1) = fun m => satirSozu m.1 := by
    funext m
    exact satirSozu_kisalt m.1
  rw [hread]
  refine .plain rfl ?_
  by_cases hbos : proposed = []
  · rw [if_pos hbos]
    exact .plain rfl .nil
  · rw [if_neg hbos]
    have hids : (proposed.map fun a => some (callId a.1)).Nodup := by
      have := h.map ((Option.some_injective _).comp callId_injective)
      rwa [List.map_map] at this
    have hgrup : Exchanges (fun m : Mesaj × Option (List ℕ) => satirSozu m.1)
        ((cagriMesaji tur.cleanText proposed, some (proposed.map Prod.fst)) ::
          ((proposed.map fun a => (aksiyonMesaji a, none)) ++ [])) := .group
      (satirSozu_cagriMesaji tur.cleanText hbos) (by rw [List.map_map, List.map_map]; rfl) hids .nil
    rwa [List.append_nil] at hgrup

theorem yanitlar_eklenen : yanitlar (eklenen tur proposed) = proposed.map fun a => some (callId a.1) := by
  have hyanit : yanitlar (eklenen tur proposed) =
      (turMesajlari tur proposed).flatMap fun m => (satirSozu m.1).answered := by
    rw [yanitlar, eklenen, List.flatMap_map]
    exact congrArg (fun f => List.flatMap f _) (funext fun m => by rw [satirSozu_kisalt])
  rw [hyanit, turMesajlari, List.flatMap_cons]
  by_cases hbos : proposed = []
  · subst hbos
    rfl
  · rw [if_neg hbos, List.flatMap_cons, satirSozu_cagriMesaji tur.cleanText hbos, List.flatMap_map]
    change List.flatMap (fun a : ℕ × PendingAction => [some (callId a.1)]) proposed = _
    rw [← List.map_eq_flatMap]

theorem adli_eklenen : ∀ m ∈ eklenen tur proposed, ∀ tc ∈ m.toolCallsJson.getD [], tc.name ≠ "" := by
  intro m hm tc htc
  obtain ⟨p, hp, rfl⟩ := List.mem_map.mp hm
  rcases List.mem_cons.mp hp with rfl | hp
  · cases htc
  · split at hp
    · obtain rfl := List.mem_singleton.mp hp
      cases htc
    · rcases List.mem_cons.mp hp with rfl | hp
      · obtain ⟨a, -, rfl⟩ := List.mem_map.mp htc
        exact (by decide : "propose_action" ≠ "")
      · obtain ⟨a, -, rfl⟩ := List.mem_map.mp hp
        cases htc

theorem hafizaDuzgun_adim {s : KocDb} (h : HafizaDuzgun saat s) (tur : KocTuru) :
    HafizaDuzgun saat (turuKaydet saat s tur) := by
  obtain ⟨hle, hnodup, haralik⟩ := onerileriYaz_keys s.pendings tur.oneriler
  generalize hy : onerileriYaz s.pendings tur.oneriler = y at hle hnodup haralik
  have hson : turuKaydet saat s tur =
      (turMesajlari tur y.2).foldl (saveMessage saat tur.userId) { s with pendings := y.1 } := by
    rw [turuKaydet, hy]
  have htum (v : ℕ) : tumMesajlar (turuKaydet saat s tur) v =
      tumMesajlar s v ++ if tur.userId = v then eklenen tur y.2 else [] := by
    rw [hson, tumMesajlar_foldl]
    rfl
  have hpend : (turuKaydet saat s tur).pendings = y.1 := by
    rw [hson, pendings_foldl]
  obtain ⟨hsirali, hgecmis⟩ := @sirali_foldl saat tur.userId (turMesajlari tur y.2)
    { s with pendings := y.1 } h.sirali h.gecmiste
  have hbilinen (v : ℕ) : ∀ id ∈ yanitlar (tumMesajlar s v), ∃ k < y.1.freshKey, id = some (callId k) := by
    intro id hid
    obtain ⟨k, hk, he⟩ := h.bilinen v id hid
    exact ⟨k, hk.trans_le hle, he⟩
  refine ⟨hson ▸ hsirali, hson ▸ hgecmis, fun v => ?_, fun v => ?_, fun v => ?_, fun v => ?_⟩
  all_goals rw [htum]
  all_goals by_cases hv : tur.userId = v
  · rw [if_pos hv]
    exact (h.konusma v).append (exchanges_eklenen hnodup)
  · rw [if_neg hv, List.append_nil]
    exact h.konusma v
  · rw [if_pos hv, yanitlar, List.flatMap_append, List.nodup_append]
    refine ⟨h.tekil v, ?_, fun a ha b hb hab => ?_⟩
    · rw [← yanitlar, yanitlar_eklenen]
      have := hnodup.map ((Option.some_injective _).comp callId_injective)
      rwa [List.map_map] at this
    · rw [← yanitlar, yanitlar_eklenen] at hb
      obtain ⟨p, hp, rfl⟩ := List.mem_map.mp hb
      obtain ⟨k, hk, he⟩ := h.bilinen v a ha
      have hkey : k = p.1 := callId_injective (Option.some.inj (he.symm.trans hab))
      have := (haralik p hp).1
      omega
  · rw [if_neg hv, List.append_nil]
    exact h.tekil v
  · rw [if_pos hv, yanitlar, List.flatMap_append, hpend]
    intro id hid
    rcases List.mem_append.mp hid with hid | hid
    · exact hbilinen v id hid
    · rw [← yanitlar, yanitlar_eklenen] at hid
      obtain ⟨p, hp, rfl⟩ := List.mem_map.mp hid
      exact ⟨p.1, (haralik p hp).2, rfl⟩
  · rw [if_neg hv, List.append_nil, hpend]
    exact hbilinen v
  · rw [if_pos hv]
    intro m hm
    exact (List.mem_append.mp hm).elim (h.adli v m) (adli_eklenen m)
  · rw [if_neg hv, List.append_nil]
    exact h.adli v

end Memory

section Windows
variable {saat : Saat} {s : KocDb} {ms : List Mesaj}

/-- The window is the end of what the user and the coach have said. -/
theorem sonMesajlar_eq (h : HafizaDuzgun saat s) (n userId : ℕ) :
    sonMesajlar n s userId = (tumMesajlar s userId).drop ((tumMesajlar s userId).length - n * 2) := by
  have hsirali : ((s.memories.rows.map Prod.snd).filter fun m => m.userId = userId).Pairwise
      fun a b => a.timestamp < b.timestamp := h.sirali.sublist List.filter_sublist
  have hters : ∀ l : List CoachMemory, l.Pairwise (fun a b => a.timestamp < b.timestamp) →
      l.mergeSort (fun a b => b.timestamp ≤ a.timestamp) = l.reverse := by
    intro l hl
    have htekil : (l.map CoachMemory.timestamp).Nodup :=
      (List.pairwise_map.mpr hl).imp fun hab => ne_of_lt hab
    refine List.Perm.eq_of_pairwise
      (fun a b ha hb (hab : decide (b.timestamp ≤ a.timestamp) = true) hba => ?_) (List.pairwise_mergeSort (fun a b c hab hbc => ?_) (fun a b => ?_) l)
      (List.pairwise_reverse.mpr (hl.imp fun hab => decide_eq_true hab.le))
      ((List.mergeSort_perm l _).trans l.reverse_perm.symm)
    · exact List.inj_on_of_nodup_map htekil (List.mem_mergeSort.mp ha) (List.mem_reverse.mp hb)
        (le_antisymm (of_decide_eq_true hba) (of_decide_eq_true hab))
    · exact decide_eq_true ((of_decide_eq_true hbc).trans (of_decide_eq_true hab))
    · rw [Bool.or_eq_true, decide_eq_true_iff, decide_eq_true_iff]
      exact le_total _ _
  rw [sonMesajlar, tumMesajlar]
  dsimp only
  rw [hters _ hsirali, List.take_reverse, List.reverse_reverse, List.length_map, List.map_drop]
  rfl

/-- Without a tool message in front the history is made of whole exchanges; with one it opens with an answer. -/
theorem loadHistory_window (h : HafizaDuzgun saat s) (n userId : ℕ) :
    Window satirSozu (loadHistory n s userId) ∧ (yanitlar (loadHistory n s userId)).Nodup ∧
      ∀ m ∈ loadHistory n s userId, ∀ tc ∈ m.toolCallsJson.getD [], tc.name ≠ "" := by
  have hson : loadHistory n s userId <:+ tumMesajlar s userId := by
    have hpencere : sonMesajlar n s userId <:+ tumMesajlar s userId := by
      rw [sonMesajlar_eq h]
      exact List.drop_suffix _ _
    rcases trimHistoryToSize_cases (sonMesajlar n s userId) with ⟨-, he⟩ | ⟨-, hs, -⟩
    · rw [loadHistory, he]
      exact hpencere
    · exact hs.trans hpencere
  have htekil : (yanitlar (loadHistory n s userId)).Nodup := by
    obtain ⟨once, he⟩ := hson
    have htum := h.tekil userId
    rw [← he, yanitlar, List.flatMap_append] at htum
    exact htum.of_append_right
  exact ⟨(Window.of_exchanges (h.konusma userId)).suffix hson, htekil, fun m hm => h.adli userId m (hson.subset hm)⟩

theorem asked_eq_validTcIds (hadli : ∀ m ∈ ms, ∀ tc ∈ m.toolCallsJson.getD [], tc.name ≠ "") :
    (ms.flatMap fun m => (satirSozu m).asked) = (validTcIds ms).map some := by
  have hcagri : ∀ tcs, (cagriSozu tcs).asked = tcs.map fun tc => some tc.id := fun tcs => by cases tcs <;> rfl
  rw [validTcIds, List.map_flatMap]
  refine List.flatMap_congr fun m hm => ?_
  have hhepsi : adliCagrilar m = m.toolCallsJson.getD [] :=
    List.filter_eq_self.mpr fun tc htc => decide_eq_true (hadli m hm tc htc)
  obtain ⟨role, content, calls, callId⟩ := m
  cases role with
  | user => rfl
  | tool => rfl
  | assistant =>
    change (cagriSozu (adliCagrilar _)).asked = _
    rw [hhepsi, hcagri, if_pos rfl, List.map_map]
    rfl

/-- The messages of the one list read as the history without its orphans. -/
theorem sozler_toOpenAiMessages : (toOpenAiMessages ms).map openAiSozu =
    (ms.filter fun m => ! oksuzMu (validTcIds ms) m).map satirSozu := by
  rw [toOpenAiMessages, List.map_map]
  exact List.map_congr_left fun m _ => openAiSozu_openAiMesaji m

/-- And those of the other one as the history without its empty messages. -/
theorem sozler_toAnthropicMessages : (toAnthropicMessages ms).flatMap anthropicSozleri =
    (ms.filter fun m => ! bosMesaj m).map satirSozu := by
  induction ms with
  | nil => rfl
  | cons m ms ih =>
    have hm := sozler_anthropicMesaji m
    rw [toAnthropicMessages] at ih ⊢
    rw [List.filterMap_cons, List.filter_cons]
    cases hb : bosMesaj m <;> cases ha : anthropicMesaji m <;> simp_all

/-- One adapter hands on whole exchanges, whatever the window has cut. -/
theorem openAi_answered (h : HafizaDuzgun saat s) (n userId : ℕ) :
    Answered ((toOpenAiMessages (loadHistory n s userId)).map openAiSozu) := by
  obtain ⟨hpencere, htekil, hadli⟩ := loadHistory_window h n userId
  rw [sozler_toOpenAiMessages]
  refine (@Exchanges.map _ _ _ _ id satirSozu (hpencere.filter (fun m => ?_) htekil)).answered
  rw [asked_eq_validTcIds hadli, Bool.not_eq_false', oksuzMu, decide_eq_true_iff]
  obtain ⟨role, content, calls, callId⟩ := m
  cases role with
  | user => simp [satirSozu]
  | assistant =>
    refine iff_of_false (fun h => nomatch h.1) ?_
    rintro ⟨id, hid, -⟩
    change cagriSozu (adliCagrilar _) = _ at hid
    generalize adliCagrilar _ = tcs at hid
    cases tcs <;> cases hid
  | tool =>
    cases callId with
    | none => simp [satirSozu]
    | some id =>
      simp only [satirSozu, Speech.answer.injEq, exists_eq_left', List.mem_map, Option.some.injEq, exists_eq_right,
        Option.any_some, decide_eq_true_eq, true_and]

theorem exchanges_loadHistory (h : HafizaDuzgun saat s) {n userId : ℕ}
    (hbas : (∀ m ∈ (sonMesajlar n s userId).head?, m.role ≠ .tool) ∨
      maxTotalHistoryChars < toplamUzunluk (sonMesajlar n s userId)) :
    Exchanges satirSozu (loadHistory n s userId) := by
  have hrol : ∀ m : Mesaj, m.role ≠ .tool → ∀ id, satirSozu m ≠ .answer id := by
    intro m hm id he
    obtain ⟨role, content, calls, callId⟩ := m
    cases role with
    | user => cases he
    | tool => exact hm rfl
    | assistant =>
      change cagriSozu (adliCagrilar _) = _ at he
      generalize adliCagrilar _ = tcs at he
      cases tcs <;> cases he
  refine (loadHistory_window h n userId).1.exchanges fun m hm => ?_
  rcases trimHistoryToSize_cases (sonMesajlar n s userId) with ⟨hkisa, he⟩ | ⟨-, -, hyetim⟩
  · rw [loadHistory, he] at hm
    rcases hbas with hbas | huzun
    · exact hrol m (hbas m hm)
    · -- a window of one message is the whole of what was said
      have htek : (sonMesajlar n s userId).length ≤ 1 := hkisa.resolve_left (not_le.mpr huzun)
      rw [sonMesajlar_eq h, List.length_drop] at htek
      have hpos : 0 < (sonMesajlar n s userId).length := by
        rw [List.length_pos_iff]
        rintro hbos
        rw [hbos] at hm
        cases hm
      rw [sonMesajlar_eq h, List.length_drop] at hpos
      have hsifir : (tumMesajlar s userId).length - n * 2 = 0 := by omega
      rw [sonMesajlar_eq h, hsifir, List.drop_zero] at hm
      exact (h.konusma userId).head_ne m hm
  · refine hrol m fun htool => ?_
    have := hyetim m hm
    rw [yetimMi, decide_eq_false_iff_not] at this
    exact this (.inl htool)

end Windows

section Histories

def bosKoc : KocDb := ⟨.empty, .empty⟩

theorem hafizaDuzgun_bosKoc (saat : Saat) : HafizaDuzgun saat bosKoc :=
  ⟨.nil, fun _ h => absurd h List.not_mem_nil, fun _ => .nil, fun _ => List.nodup_nil,
    fun _ _ h => absurd h List.not_mem_nil, fun _ _ h => absurd h List.not_mem_nil⟩

theorem hafizaDuzgun_run (saat : Saat) (turlar : List KocTuru) :
    HafizaDuzgun saat (run (turuKaydet saat) bosKoc turlar) :=
  run_invariant_all (fun s tur (h : HafizaDuzgun saat s) => hafizaDuzgun_adim h tur) turlar (hafizaDuzgun_bosKoc saat)

/-- After every run of completed turns both message lists are answered exactly when the window on the user's
history does not open with a tool message, or is so long that the trim looks at it. -/
theorem chat_history (saat : Saat) (turlar : List KocTuru) (n userId : ℕ) :
    let s := run (turuKaydet saat) bosKoc turlar
    (Answered ((toOpenAiMessages (loadHistory n s userId)).map openAiSozu) ∧
      Answered ((toAnthropicMessages (loadHistory n s userId)).flatMap anthropicSozleri)) ↔
    ((∀ m ∈ (sonMesajlar n s userId).head?, m.role ≠ .tool) ∨
      maxTotalHistoryChars < toplamUzunluk (sonMesajlar n s userId)) := by
  intro s
  have hs : HafizaDuzgun saat s := hafizaDuzgun_run saat turlar
  rw [sozler_toAnthropicMessages]
  constructor
  · rintro ⟨-, hsoz⟩
    by_contra hn
    obtain ⟨hbas, hkisa⟩ := not_or.mp hn
    simp only [not_forall, not_not] at hbas
    obtain ⟨m, hm, htool⟩ := hbas
    have hayni : loadHistory n s userId = sonMesajlar n s userId := by
      rcases trimHistoryToSize_cases (sonMesajlar n s userId) with ⟨-, he⟩ | ⟨huzun, -, -⟩
      · exact he
      · exact absurd huzun hkisa
    obtain ⟨l, hl⟩ : ∃ l, sonMesajlar n s userId = m :: l := by
      cases hson : sonMesajlar n s userId with
      | nil =>
        rw [hson] at hm
        cases hm
      | cons a l =>
        rw [hson] at hm
        exact ⟨l, by rw [Option.some.inj hm]⟩
    have hdolu : bosMesaj m = false := by simp [bosMesaj, htool]
    have hilk : satirSozu m = .answer m.toolCallId := by rw [satirSozu, htool]
    rw [hayni, hl, List.filter_cons, if_pos (by rw [hdolu]; rfl), List.map_cons, hilk] at hsoz
    exact hsoz.head_ne m.toolCallId rfl
  · intro hbas
    refine ⟨openAi_answered hs n userId, ?_⟩
    refine (@Exchanges.map _ _ _ _ id satirSozu
      ((exchanges_loadHistory hs hbas).filter fun m _ hm => ?_)).answered
    rw [Bool.not_eq_false', bosMesaj, decide_eq_true_iff] at hm
    obtain ⟨-, htool, hcagri⟩ := hm
    obtain ⟨role, content, calls, callId⟩ := m
    cases role with
    | user => rfl
    | tool => exact absurd rfl htool
    | assistant =>
      cases calls with
      | none => rfl
      | some tcs => exact absurd ⟨rfl, rfl⟩ hcagri

def saniyeler : Saat := ⟨fun n => n, Nat.strictMono_cast⟩

/-- Six proposals in one turn: of its eight messages the window shows the last six. -/
def altiOneri : KocTuru :=
  ⟨1, "not", "kaydettim", "", List.replicate 6
    (0, ⟨1, none, .updateAccountBalance, .otherValue, "bakiye", .pending, none, none, none⟩)⟩

theorem results_without_a_call :
    let s := run (turuKaydet saniyeler) bosKoc [altiOneri]
    ¬ Answered ((toAnthropicMessages (loadHistory 3 s 1)).flatMap anthropicSozleri) := by
  intro s h
  have hson : loadHistory 3 s 1 =
      trimHistoryToSize ((tumMesajlar s 1).drop ((tumMesajlar s 1).length - 3 * 2)) := by
    rw [loadHistory, sonMesajlar_eq (hafizaDuzgun_run saniyeler [altiOneri])]
  rw [hson] at h
  exact h.head_ne (some "call_1") (by decide +kernel)

end Histories

end FinancialOs.Guarantees
