import Mathlib.Data.List.Infix
import Mathlib.Data.List.Nodup

/-! Dialogues in which a message can make calls and later messages answer them. Messages are of any kind and are
read through the part they play; an exchange is a message with the answers to its calls right behind it. -/
namespace FinancialOs.Library

inductive Speech (κ : Type) where
  | plain
  | calls (ids : List κ)
  | answer (id : κ)
  deriving DecidableEq

namespace Speech
variable {κ : Type}

def asked : Speech κ → List κ
  | .calls ids => ids
  | _ => []

def answered : Speech κ → List κ
  | .answer id => [id]
  | _ => []

def isAnswer : Speech κ → Bool
  | .answer _ => true
  | _ => false

end Speech

variable {α κ : Type}

/-- Every answer stands behind a message that makes its call, and every call is answered once before anything
else is said. -/
structure Answered [DecidableEq κ] (l : List (Speech κ)) : Prop where
  late : ∀ before id after, l = before ++ .answer id :: after → ∃ ids, .calls ids ∈ before ∧ id ∈ ids
  once : ∀ before ids after, l = before ++ .calls ids :: after → ∀ id ∈ ids,
    ((after.takeWhile Speech.isAnswer).flatMap Speech.answered).count id = 1

/-- Nothing but plain messages and exchanges. -/
inductive Exchanges (read : α → Speech κ) : List α → Prop
  | nil : Exchanges read []
  | plain {a : α} {l : List α} (ha : read a = .plain) (hl : Exchanges read l) : Exchanges read (a :: l)
  | group {a : α} {ids : List κ} {answers l : List α} (ha : read a = .calls ids)
      (hanswers : answers.map read = ids.map .answer) (hids : ids.Nodup) (hl : Exchanges read l) :
      Exchanges read (a :: (answers ++ l))

/-- What is left of exchanges when their first messages are gone. -/
def Window (read : α → Speech κ) (l : List α) : Prop :=
  ∃ answers rest, l = answers ++ rest ∧ (∀ a ∈ answers, ∃ id, read a = .answer id) ∧ Exchanges read rest

section Rules
variable {read : α → Speech κ} {l : List α}

theorem Exchanges.append {m : List α} (hl : Exchanges read l) (hm : Exchanges read m) : Exchanges read (l ++ m) := by
  induction hl with
  | nil => exact hm
  | plain ha _ ih => exact .plain ha ih
  | group ha hanswers hids _ ih =>
    rw [List.cons_append, List.append_assoc]
    exact .group ha hanswers hids ih

theorem Exchanges.map {β : Type} {read : β → Speech κ} {f : α → β} (h : Exchanges (read ∘ f) l) :
    Exchanges read (l.map f) := by
  induction h with
  | nil => exact .nil
  | plain ha _ ih => exact .plain ha ih
  | group ha hanswers hids _ ih =>
    rw [List.map_cons, List.map_append]
    exact .group ha (by rw [List.map_map, hanswers]) hids ih

/-- The first message of exchanges answers nothing. -/
theorem Exchanges.head_ne (h : Exchanges read l) : ∀ a ∈ l.head?, ∀ id, read a ≠ .answer id := by
  intro a ha id hid
  cases h with
  | nil => cases ha
  | plain hp _ =>
    obtain rfl := Option.some.inj ha
    rw [hp] at hid
    cases hid
  | group hc _ _ _ =>
    obtain rfl := Option.some.inj ha
    rw [hc] at hid
    cases hid

private theorem mem_of_map_answer {ids : List κ} {answers : List α} (h : answers.map read = ids.map .answer) :
    ∀ a ∈ answers, ∃ id ∈ ids, read a = .answer id := by
  intro a ha
  have hmem : read a ∈ ids.map Speech.answer := h ▸ List.mem_map_of_mem ha
  obtain ⟨id, hid, he⟩ := List.mem_map.mp hmem
  exact ⟨id, hid, he.symm⟩

/-- Messages can be left out as long as they are plain. -/
theorem Exchanges.filter {p : α → Bool} (h : Exchanges read l) (hp : ∀ a ∈ l, p a = false → read a = .plain) :
    Exchanges read (l.filter p) := by
  induction h with
  | nil => exact .nil
  | @plain a l ha _ ih =>
    have hl := ih fun b hb => hp b (List.mem_cons_of_mem _ hb)
    rw [List.filter_cons]
    split
    · exact .plain ha hl
    · exact hl
  | @group a ids answers l ha hanswers hids _ ih =>
    have hkeep : ∀ b ∈ a :: (answers ++ l), read b ≠ .plain → p b = true := fun b hb hne =>
      Bool.not_eq_false _ ▸ fun hb' => hne (hp b hb hb')
    have hfilter : answers.filter p = answers := List.filter_eq_self.mpr fun b hb => by
      obtain ⟨id, -, hid⟩ := mem_of_map_answer hanswers b hb
      exact hkeep b (List.mem_cons_of_mem _ (List.mem_append_left _ hb)) (by rw [hid]; nofun)
    rw [List.filter_cons, if_pos (hkeep a List.mem_cons_self (by rw [ha]; nofun)), List.filter_append, hfilter]
    exact .group ha hanswers hids (ih fun b hb => hp b (List.mem_cons_of_mem _ (List.mem_append_right _ hb)))

private theorem flatMap_answered (read : α → Speech κ) {ids : List κ} {answers : List α} (h : answers.map read = ids.map .answer) :
    answers.flatMap (fun a => (read a).answered) = ids := by
  induction answers generalizing ids with
  | nil =>
    cases ids with
    | nil => rfl
    | cons id ids => cases h
  | cons a answers ih =>
    cases ids with
    | nil => cases h
    | cons id ids =>
      obtain ⟨ha, h⟩ := List.cons.inj h
      rw [List.flatMap_cons, ih h, ha]
      rfl

private theorem flatMap_asked {ids : List κ} {answers : List α} (h : answers.map read = ids.map .answer) :
    answers.flatMap (fun a => (read a).asked) = [] := by
  refine List.flatMap_eq_nil_iff.mpr fun a ha => ?_
  obtain ⟨id, -, hid⟩ := mem_of_map_answer h a ha
  rw [hid]
  rfl

/-- What is asked is what is answered, in the same order. -/
theorem Exchanges.asked_eq (h : Exchanges read l) :
    l.flatMap (fun a => (read a).asked) = l.flatMap fun a => (read a).answered := by
  induction h with
  | nil => rfl
  | plain ha _ ih => rw [List.flatMap_cons, List.flatMap_cons, ih, ha]; rfl
  | group ha hanswers _ _ ih =>
    rw [List.flatMap_cons, List.flatMap_append, List.flatMap_cons, List.flatMap_append, ih, ha,
      flatMap_answered read hanswers, flatMap_asked hanswers]
    rfl

theorem Window.of_exchanges (h : Exchanges read l) : Window read l := ⟨[], l, rfl, nofun, h⟩

theorem Window.tail (h : Window read l) : Window read l.tail := by
  obtain ⟨answers, rest, rfl, hanswers, hrest⟩ := h
  cases answers with
  | cons a answers => exact ⟨answers, rest, rfl, fun b hb => hanswers b (List.mem_cons_of_mem _ hb), hrest⟩
  | nil =>
    cases hrest with
    | nil => exact .of_exchanges .nil
    | plain _ hl => exact .of_exchanges hl
    | group _ hmap _ hl =>
      exact ⟨_, _, rfl, fun b hb => (mem_of_map_answer hmap b hb).imp fun id h => h.2, hl⟩

theorem Window.suffix {m : List α} (h : Window read l) (hm : m <:+ l) : Window read m := by
  obtain ⟨before, rfl⟩ := hm
  induction before with
  | nil => exact h
  | cons a before ih => exact ih h.tail

/-- A window that does not open with an answer is whole. -/
theorem Window.exchanges (h : Window read l) (hhead : ∀ a ∈ l.head?, ∀ id, read a ≠ .answer id) : Exchanges read l := by
  obtain ⟨answers, rest, rfl, hanswers, hrest⟩ := h
  cases answers with
  | nil => exact hrest
  | cons a answers =>
    obtain ⟨id, hid⟩ := hanswers a List.mem_cons_self
    exact absurd hid (hhead a rfl id)

/-- Leaving out the answers to calls that the window does not show makes it whole, unless an identifier is used
twice. -/
theorem Window.filter {p : α → Bool} (h : Window read l)
    (hp : ∀ a, p a = false ↔ ∃ id, read a = .answer id ∧ id ∉ l.flatMap fun b => (read b).asked)
    (hids : (l.flatMap fun a => (read a).answered).Nodup) : Exchanges read (l.filter p) := by
  obtain ⟨answers, rest, rfl, hanswers, hrest⟩ := h
  have hasked : (answers ++ rest).flatMap (fun b => (read b).asked) = rest.flatMap fun a => (read a).answered := by
    have hnone : answers.flatMap (fun b => (read b).asked) = [] := List.flatMap_eq_nil_iff.mpr fun a ha => by
      obtain ⟨id, hid⟩ := hanswers a ha
      rw [hid]
      rfl
    rw [List.flatMap_append, hrest.asked_eq, hnone, List.nil_append]
  rw [List.flatMap_append] at hids
  have hfirst : answers.filter p = [] := List.filter_eq_nil_iff.mpr fun a ha => by
    obtain ⟨id, hid⟩ := hanswers a ha
    have hmem : id ∈ answers.flatMap fun a => (read a).answered :=
      List.mem_flatMap.mpr ⟨a, ha, by rw [hid]; exact List.mem_singleton_self id⟩
    rw [Bool.not_eq_true, hp, hasked]
    exact ⟨id, hid, fun hrest => (List.nodup_append.mp hids).2.2 id hmem id hrest rfl⟩
  have hlast : rest.filter p = rest := List.filter_eq_self.mpr fun a ha => by
    rw [← Bool.not_eq_false, hp, hasked]
    rintro ⟨id, hid, hno⟩
    exact hno (List.mem_flatMap.mpr ⟨a, ha, by rw [hid]; exact List.mem_singleton_self id⟩)
  rw [List.filter_append, hfirst, hlast]
  exact hrest

end Rules

section Answers
variable [DecidableEq κ] {l : List (Speech κ)}

omit [DecidableEq κ] in
private theorem takeWhile_answers (ids : List κ) (hl : Exchanges id l) :
    (ids.map Speech.answer ++ l).takeWhile Speech.isAnswer = ids.map .answer := by
  have hstop : l.takeWhile Speech.isAnswer = [] := by
    cases l with
    | nil => rfl
    | cons a l =>
      have ha := hl.head_ne a rfl
      cases a with
      | answer id => exact absurd rfl (ha id)
      | plain => rfl
      | calls ids => rfl
  rw [List.takeWhile_append_of_pos, hstop, List.append_nil]
  intro a ha
  obtain ⟨id, -, rfl⟩ := List.mem_map.mp ha
  rfl

/-- Exchanges are answered. -/
theorem Exchanges.answered (h : Exchanges id l) : Answered l := by
  induction h with
  | nil => exact ⟨fun before _ _ h => absurd h (by simp), fun before _ _ h => absurd h (by simp)⟩
  | @plain a l ha _ ih =>
    obtain rfl : a = .plain := ha
    constructor
    · intro before id after h
      cases before with
      | nil => cases h
      | cons b before =>
        obtain ⟨ids, hids, hid⟩ := ih.late before id after (List.cons.inj h).2
        exact ⟨ids, List.mem_cons_of_mem _ hids, hid⟩
    · intro before ids after h
      cases before with
      | nil => cases h
      | cons b before => exact ih.once before ids after (List.cons.inj h).2
  | @group a ids answers l ha hanswers hids hl ih =>
    obtain rfl : a = .calls ids := ha
    rw [List.map_id] at hanswers
    subst hanswers
    constructor
    · intro before id after h
      cases before with
      | nil => cases h
      | cons b before =>
        obtain ⟨hb, htail⟩ := List.cons.inj h
        subst hb
        rcases List.append_eq_append_iff.mp htail with ⟨m, rfl, hm⟩ | ⟨m, hm, hrest⟩
        · obtain ⟨jds, hjds, hid⟩ := ih.late m id after hm
          exact ⟨jds, List.mem_cons_of_mem _ (List.mem_append_right _ hjds), hid⟩
        · cases m with
          | nil =>
            obtain ⟨jds, hjds, hid⟩ := ih.late [] id after hrest.symm
            cases hjds
          | cons c m =>
            obtain ⟨rfl, -⟩ := List.cons.inj hrest
            have hmem : Speech.answer id ∈ ids.map .answer := hm ▸ List.mem_append_right _ List.mem_cons_self
            obtain ⟨jd, hjd, he⟩ := List.mem_map.mp hmem
            exact ⟨ids, List.mem_cons_self, Speech.answer.inj he ▸ hjd⟩
    · intro before jds after h id hid
      cases before with
      | nil =>
        obtain ⟨hids', rfl⟩ := List.cons.inj h
        obtain rfl := Speech.calls.inj hids'
        have hflat : (ids.map Speech.answer).flatMap Speech.answered = ids :=
          flatMap_answered (fun a => a) (List.map_id _)
        rw [takeWhile_answers ids hl, hflat]
        exact List.count_eq_one_of_mem hids hid
      | cons b before =>
        rcases List.append_eq_append_iff.mp (List.cons.inj h).2 with ⟨m, rfl, hm⟩ | ⟨m, hm, hrest⟩
        · exact ih.once m jds after hm id hid
        · cases m with
          | nil => exact ih.once [] jds after hrest.symm id hid
          | cons c m =>
            obtain ⟨rfl, -⟩ := List.cons.inj hrest
            have hmem : Speech.calls jds ∈ ids.map .answer := hm ▸ List.mem_append_right _ List.mem_cons_self
            obtain ⟨jd, -, he⟩ := List.mem_map.mp hmem
            cases he

/-- And nothing that is answered opens with an answer. -/
theorem Answered.head_ne (h : Answered l) (id : κ) : Speech.answer id ∉ l.head? := by
  intro hhead
  obtain ⟨m, rfl⟩ : ∃ m, l = .answer id :: m := by
    cases l with
    | nil => cases hhead
    | cons a m => exact ⟨m, by rw [Option.some.inj hhead]⟩
  obtain ⟨ids, hids, -⟩ := h.late [] id m rfl
  cases hids

end Answers

end FinancialOs.Library
