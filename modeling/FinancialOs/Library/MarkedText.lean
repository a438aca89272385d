import Mathlib.Data.List.DropRight

/-! Texts of lines, each put together from what a program writes and what it is given. Where nothing that is
given breaks a line, a reader sees the lines the program meant. -/
namespace FinancialOs.Library
variable {α : Type}

/-- A piece of a line, with who supplied it. -/
inductive Piece (α : Type) where
  | code (s : List α)
  | data (s : List α)
  deriving DecidableEq

namespace Piece

def chars : Piece α → List α
  | code s => s
  | data s => s

/-- The characters, each with whether the program wrote it. -/
def marked : Piece α → List (α × Bool)
  | code s => s.map fun c => (c, true)
  | data s => s.map fun c => (c, false)

def Unbroken (brk : α → Bool) (p : Piece α) : Prop := ∀ c ∈ p.chars, brk c = false

theorem mem_marked {p : Piece α} {c : α × Bool} (hc : c ∈ p.marked) : c.1 ∈ p.chars := by
  cases p with
  | code s =>
    obtain ⟨d, hd, rfl⟩ := List.mem_map.mp hc
    exact hd
  | data s =>
    obtain ⟨d, hd, rfl⟩ := List.mem_map.mp hc
    exact hd

end Piece

abbrev Line (α : Type) := List (Piece α)

def Line.marked (l : Line α) : List (α × Bool) := l.flatMap Piece.marked

/-- The lines with a break between any two. -/
def document (nl : α) (ls : List (Line α)) : List (α × Bool) := [(nl, true)].intercalate (ls.map Line.marked)

/-- The lines that a reader sees. -/
def readLines (brk : α → Bool) (text : List (α × Bool)) : List (List (α × Bool)) := text.splitOnP fun c => brk c.1

/-- Without what is blank at both ends. -/
def stripped (blank : α → Bool) (text : List (α × Bool)) : List (α × Bool) :=
  (text.dropWhile fun c => blank c.1).rdropWhile fun c => blank c.1

/-- A line that begins with the mark is the program's to its end. -/
def Genuine (mark : α → Bool) (line : List (α × Bool)) : Prop :=
  (∃ c ∈ line.head?, mark c.1 = true) → ∀ c ∈ line, c.2 = true

section
variable {brk blank mark : α → Bool} {nl : α} {l empty first : Line α} {ls : List (Line α)}
variable {line s t : List (α × Bool)}

theorem Line.mem_marked {c : α × Bool} (hc : c ∈ l.marked) : ∃ p ∈ l, c.1 ∈ p.chars := by
  obtain ⟨p, hp, hc⟩ := List.mem_flatMap.mp hc
  exact ⟨p, hp, Piece.mem_marked hc⟩

theorem Line.marked_unbroken (hl : ∀ p ∈ l, p.Unbroken brk) : ∀ c ∈ l.marked, brk c.1 = false := by
  intro c hc
  obtain ⟨p, hp, hc⟩ := Line.mem_marked hc
  exact hl p hp c.1 hc

/-- Nothing breaks a line: the reader sees the lines as they were put together. -/
theorem readLines_document (hnl : brk nl = true) (hne : ls ≠ []) (hls : ∀ l ∈ ls, ∀ p ∈ l, p.Unbroken brk) :
    readLines brk (document nl ls) = ls.map Line.marked := by
  induction ls with
  | nil => exact absurd rfl hne
  | cons l ls ih =>
    obtain ⟨hl, hls⟩ := List.forall_mem_cons.mp hls
    have hunbroken := Line.marked_unbroken hl
    cases ls with
    | nil =>
      rw [document, List.map_singleton, List.intercalate_singleton]
      exact List.splitOnP_eq_singleton hunbroken
    | cons l' ls =>
      have hrest := ih (List.cons_ne_nil l' ls) hls
      rw [readLines, document, List.map_cons] at hrest
      rw [readLines, document, List.map_cons, List.map_cons, List.intercalate_cons_cons, List.append_assoc,
        List.singleton_append, List.splitOnP_append_cons_of_forall_mem hunbroken (nl, true) hnl, hrest]

/-- The lines of a front of a text are those of the text, apart from the end of the last one. -/
theorem readLines_append (s t : List (α × Bool)) : ∃ front last behind rest, readLines brk t = behind :: rest ∧
    readLines brk s = front ++ [last] ∧ readLines brk (s ++ t) = front ++ (last ++ behind) :: rest := by
  obtain ⟨behind, rest, ht⟩ := List.exists_cons_of_ne_nil (List.splitOnP_ne_nil (fun c : α × Bool => brk c.1) t)
  rw [← readLines] at ht
  suffices h : ∃ front last, readLines brk s = front ++ [last] ∧
      readLines brk (s ++ t) = front ++ (last ++ behind) :: rest by
    obtain ⟨front, last, hs, hst⟩ := h
    exact ⟨front, last, behind, rest, ht, hs, hst⟩
  induction s with
  | nil => exact ⟨[], [], rfl, ht⟩
  | cons c s ih =>
    obtain ⟨front, last, hs, hst⟩ := ih
    rw [readLines] at hs hst
    rw [List.cons_append, readLines, readLines, List.splitOnP_cons_eq_if_modifyHead,
      List.splitOnP_cons_eq_if_modifyHead, hs, hst]
    by_cases hc : brk c.1 = true
    · exact ⟨[] :: front, last, if_pos hc, if_pos hc⟩
    · rw [if_neg hc, if_neg hc]
      cases front with
      | nil => exact ⟨[], c :: last, rfl, rfl⟩
      | cons l front => exact ⟨(c :: l) :: front, last, rfl, rfl⟩

/-- A reader sees no character that the text does not have. -/
theorem mem_of_mem_readLines {text : List (α × Bool)} {c : α × Bool} (hline : line ∈ readLines brk text) (hc : c ∈ line) :
    c ∈ text := by
  induction text generalizing line with
  | nil =>
    rw [List.mem_singleton.mp hline] at hc
    cases hc
  | cons d text ih =>
    rw [readLines, List.splitOnP_cons_eq_if_modifyHead] at hline
    by_cases hd : brk d.1 = true
    · rw [if_pos hd] at hline
      rcases List.mem_cons.mp hline with rfl | hline
      · cases hc
      · exact List.mem_cons_of_mem d (ih hline hc)
    · rw [if_neg hd] at hline
      obtain ⟨first, rest, htext⟩ := List.exists_cons_of_ne_nil (List.splitOnP_ne_nil (fun c : α × Bool => brk c.1) text)
      rw [readLines, htext] at ih
      rw [htext, List.modifyHead_cons] at hline
      rcases List.mem_cons.mp hline with rfl | hline
      · rcases List.mem_cons.mp hc with rfl | hc
        · exact List.mem_cons_self
        · exact List.mem_cons_of_mem d (ih List.mem_cons_self hc)
      · exact List.mem_cons_of_mem d (ih (List.mem_cons_of_mem first hline) hc)

theorem Genuine.front (hpre : s <+: t) (ht : Genuine mark t) : Genuine mark s := by
  rintro ⟨c, hc, hmark⟩ d hd
  obtain ⟨x, rfl⟩ := hpre
  refine ht ⟨c, ?_, hmark⟩ d (List.mem_append_left x hd)
  rw [List.head?_append, Option.mem_def.mp hc]
  rfl

theorem genuine_front (hst : ∀ l ∈ readLines brk (s ++ t), Genuine mark l) : ∀ l ∈ readLines brk s, Genuine mark l := by
  obtain ⟨front, last, behind, rest, -, hs, happ⟩ := @readLines_append _ brk s t
  rw [happ] at hst
  rw [hs]
  intro l hl
  rcases List.mem_append.mp hl with hl | hl
  · exact hst l (List.mem_append_left _ hl)
  · rw [List.mem_singleton.mp hl]
    exact (hst _ (List.mem_append_right front List.mem_cons_self)).front (List.prefix_append last behind)

theorem document_cons (nl : α) (l : Line α) (ls : List (Line α)) :
    ∃ behind, document nl (l :: ls) = l.marked ++ behind := by
  cases ls with
  | nil => exact ⟨[], by rw [document, List.map_singleton, List.intercalate_singleton, List.append_nil]⟩
  | cons l' ls =>
    rw [document, List.map_cons, List.map_cons, List.intercalate_cons_cons, List.append_assoc]
    exact ⟨_, rfl⟩

/-- The empty line in front is what stripping takes there. -/
theorem dropWhile_document (hempty : empty.marked = []) (hblank : blank nl = true) (hhead : ∃ c ∈ first.marked.head?, blank c.1 = false) :
    (document nl (empty :: first :: ls)).dropWhile (fun c => blank c.1) = document nl (first :: ls) := by
  obtain ⟨c, hc, hfirst⟩ := hhead
  obtain ⟨behind, hdoc⟩ := document_cons nl first ls
  obtain ⟨rest, hmarked⟩ := List.head?_eq_some_iff.mp hc
  have hbehind : document nl (empty :: first :: ls) = (nl, true) :: document nl (first :: ls) := by
    rw [document, List.map_cons, List.map_cons, List.intercalate_cons_cons, hempty]
    rfl
  rw [hbehind, List.dropWhile_cons, if_pos hblank, hdoc, hmarked, List.cons_append, List.dropWhile_cons, hfirst]
  rfl

/-- What begins a line of a text begins one of its front, unless it stands in the part that is cut off. -/
theorem head_of_front {c : α × Bool} (hline : line ∈ readLines brk (s ++ t)) (hc : c ∈ line.head?) (ht : c ∉ t) :
    ∃ l ∈ readLines brk s, c ∈ l.head? := by
  obtain ⟨front, last, behind, rest, hbehind, hs, happ⟩ := @readLines_append _ brk s t
  have hcut (l : List (α × Bool)) (hl : l ∈ behind :: rest) : c ∉ l := fun h =>
    ht (mem_of_mem_readLines (hbehind ▸ hl) h)
  have hmem : c ∈ line := List.mem_of_mem_head? hc
  rw [happ] at hline
  rw [hs]
  rcases List.mem_append.mp hline with hl | hl
  · exact ⟨line, List.mem_append_left _ hl, hc⟩
  · rcases List.mem_cons.mp hl with rfl | hl
    · cases last with
      | nil => exact absurd hmem (hcut behind List.mem_cons_self)
      | cons d last => exact ⟨d :: last, List.mem_append_right front List.mem_cons_self, hc⟩
    · exact absurd hmem (hcut line (List.mem_cons_of_mem behind hl))

/-- A document behind an empty line, stripped: what begins a line with the mark is the program's. -/
theorem genuine_stripped (hempty : empty.marked = []) (hnl : brk nl = true) (hblank : blank nl = true)
    (hhead : ∃ c ∈ first.marked.head?, blank c.1 = false)
    (hls : ∀ l ∈ first :: ls, (∀ p ∈ l, p.Unbroken brk) ∧ Genuine mark l.marked) :
    ∀ l ∈ readLines brk (stripped blank (document nl (empty :: first :: ls))), Genuine mark l := by
  obtain ⟨behind, hpre⟩ := @List.rdropWhile_prefix _ (fun c => blank c.1) (document nl (first :: ls))
  rw [stripped, dropWhile_document hempty hblank hhead]
  apply @genuine_front _ _ _ _ behind
  rw [hpre, readLines_document hnl (List.cons_ne_nil first ls) fun l hl => (hls l hl).1]
  intro line hline
  obtain ⟨l, hl, rfl⟩ := List.mem_map.mp hline
  exact (hls l hl).2

/-- And the other way: what begins a line with the mark is written by the program. -/
theorem head_of_genuine_stripped (hempty : empty.marked = []) (hnl : brk nl = true) (hblank : blank nl = true)
    (hhead : ∃ c ∈ first.marked.head?, blank c.1 = false)
    (hbrk : ∀ l ∈ first :: ls, ∀ p ∈ l, p.Unbroken brk)
    (hgenuine : ∀ l ∈ readLines brk (stripped blank (document nl (empty :: first :: ls))), Genuine mark l)
    {c : α × Bool} (hl : l ∈ first :: ls) (hc : c ∈ l.marked.head?) (hmark : mark c.1 = true)
    (hvisible : blank c.1 = false) : c.2 = true := by
  rw [stripped, dropWhile_document hempty hblank hhead] at hgenuine
  have hline : l.marked ∈ readLines brk (document nl (first :: ls)) := by
    rw [readLines_document hnl (List.cons_ne_nil first ls) hbrk]
    exact List.mem_map_of_mem hl
  rw [← @List.rdropWhile_append_rtakeWhile _ (fun c => blank c.1) (document nl (first :: ls))] at hline
  obtain ⟨line, hline, hfirst⟩ := head_of_front hline hc fun h => by
    rw [List.mem_rtakeWhile_imp h] at hvisible
    cases hvisible
  exact hgenuine line hline ⟨c, hfirst, hmark⟩ c (List.mem_of_mem_head? hfirst)

end
end FinancialOs.Library
