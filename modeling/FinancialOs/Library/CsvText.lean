import Mathlib.Data.List.Basic

/-! Rows of fields as a delimited text: the writer that quotes a field only where it must, and the automaton that
reads such a text line by line. -/
namespace FinancialOs.Library.Csv
variable {delim c : Char} {f g s : List Char} {fs : List (List Char)}

def isNewline (c : Char) : Bool := c = '\r' ∨ c = '\n'

/-- A character that makes the writer quote its field. -/
def special (delim c : Char) : Bool := c = delim ∨ c = '"' ∨ isNewline c

def doubled : List Char → List Char
  | [] => []
  | c :: f => if c = '"' then '"' :: '"' :: doubled f else c :: doubled f

def writeField (delim : Char) (f : List Char) : List Char :=
  if f.any (special delim) then '"' :: (doubled f ++ ['"']) else f

/-- The fields of a row and the end of its line. -/
def writeFields (delim : Char) : List (List Char) → List Char
  | [] => ['\r', '\n']
  | [f] => writeField delim f ++ ['\r', '\n']
  | f :: g :: fs => writeField delim f ++ delim :: writeFields delim (g :: fs)

/-- A lone empty field is quoted, so that its line is not an empty row. -/
def writeRow (delim : Char) (fs : List (List Char)) : List Char :=
  if fs = [[]] then ['"', '"', '\r', '\n'] else writeFields delim fs

def write (delim : Char) (rows : List (List (List Char))) : List Char := rows.flatMap (writeRow delim)

inductive Mode where
  | startRecord
  | startField
  | inField
  | inQuoted
  | quoteInQuoted
  | eatNewline
  deriving DecidableEq

/-- What has been read of a row. -/
structure Reader where
  mode : Mode
  field : List Char
  fields : List (List Char)

namespace Reader

def empty : Reader := ⟨.startRecord, [], []⟩

def save (r : Reader) (mode : Mode) : Reader := ⟨mode, [], r.fields ++ [r.field]⟩

def add (r : Reader) (c : Char) (mode : Mode) : Reader := { r with mode := mode, field := r.field ++ [c] }

def atFieldStart (delim c : Char) (r : Reader) : Reader :=
  if isNewline c then r.save .eatNewline
  else if c = '"' then { r with mode := .inQuoted }
  else if c = delim then r.save .startField
  else r.add c .inField

/-- One character; a line break inside an unquoted field is an error. -/
def char (delim c : Char) (r : Reader) : Option Reader :=
  match r.mode with
  | .startRecord => some (if isNewline c then { r with mode := .eatNewline } else r.atFieldStart delim c)
  | .startField => some (r.atFieldStart delim c)
  | .inField =>
    some (if isNewline c then r.save .eatNewline else if c = delim then r.save .startField else r.add c .inField)
  | .inQuoted => some (if c = '"' then { r with mode := .quoteInQuoted } else r.add c .inQuoted)
  | .quoteInQuoted =>
    some (if c = '"' then r.add c .inQuoted
      else if c = delim then r.save .startField
      else if isNewline c then r.save .eatNewline
      else r.add c .inField)
  | .eatNewline => if isNewline c then some r else none

/-- The end of a line ends the row unless a quote is open. -/
def endOfLine (r : Reader) : Reader :=
  match r.mode with
  | .startRecord | .inQuoted => r
  | .eatNewline => { r with mode := .startRecord }
  | .startField | .inField | .quoteInQuoted => r.save .startRecord

end Reader

/-- What is left when the text ends: an open quote is closed. -/
def finish (r : Reader) : List (List (List Char)) :=
  if r.mode = .inQuoted then [(r.save .startRecord).fields] else []

/-- The rows of a text; `inLine` says that a line has begun. -/
def read (delim : Char) (inLine : Bool) (r : Reader) : List Char → Option (List (List (List Char)))
  | [] =>
    let r := if inLine then r.endOfLine else r
    some (if inLine ∧ r.mode = .startRecord then [r.fields] else finish r)
  | c :: s =>
    match r.char delim c with
    | none => none
    | some r =>
      if c = '\n' then
        if r.endOfLine.mode = .startRecord then (read delim false .empty s).map (r.endOfLine.fields :: ·)
        else read delim false r.endOfLine s
      else read delim true r s

/-- A delimiter that neither quotes nor ends a line. -/
def Plain (delim : Char) : Prop := delim ≠ '"' ∧ isNewline delim = false

section Reading
variable {b : Bool} {r : Reader}

theorem read_of_char {r' : Reader} (h : r.char delim c = some r') (hc : c ≠ '\n') :
    read delim b r (c :: s) = read delim true r' s := by
  rw [read, h]
  exact if_neg hc

theorem read_eol {r' : Reader} (h : r.char delim '\n' = some r') (hend : r'.endOfLine.mode = .startRecord) :
    read delim b r ('\n' :: s) = (read delim false .empty s).map (r'.endOfLine.fields :: ·) := by
  rw [read, h]
  exact (if_pos rfl).trans (if_pos hend)

theorem ne_newline (h : isNewline c = false) : c ≠ '\r' ∧ c ≠ '\n' := by
  constructor
  · rintro rfl
    cases h
  · rintro rfl
    cases h

/-- The line behind the last field of a row. -/
theorem read_lineEnd (hr : r.char delim '\r' = some ⟨.eatNewline, [], fs⟩) :
    read delim b r ('\r' :: '\n' :: s) = (read delim false .empty s).map (fs :: ·) := by
  have heol : Reader.char delim '\n' ⟨.eatNewline, [], fs⟩ = some ⟨.eatNewline, [], fs⟩ := rfl
  rw [read_of_char hr (by decide)]
  exact read_eol heol rfl

/-- The characters of an unquoted field. -/
theorem read_plain (hg : ∀ c ∈ g, special delim c = false) :
    read delim true ⟨.inField, f, fs⟩ (g ++ s) = read delim true ⟨.inField, f ++ g, fs⟩ s := by
  induction g generalizing f with
  | nil => rw [List.nil_append, List.append_nil]
  | cons c g ih =>
    obtain ⟨hc, hg⟩ := List.forall_mem_cons.mp hg
    simp only [special, decide_eq_false_iff_not, not_or, Bool.not_eq_true] at hc
    obtain ⟨hdelim, -, hnew⟩ := hc
    have hchar : Reader.char delim c ⟨.inField, f, fs⟩ = some ⟨.inField, f ++ [c], fs⟩ := by
      rw [Reader.char]
      simp [hnew, hdelim, Reader.add]
    rw [List.cons_append, read_of_char hchar (ne_newline hnew).2, ih hg, List.append_assoc]
    rfl

/-- The characters of a quoted field, its line breaks and doubled quotes among them. -/
theorem read_doubled (b : Bool) : ∃ b', read delim b ⟨.inQuoted, f, fs⟩ (doubled g ++ '"' :: s) =
    read delim b' ⟨.inQuoted, f ++ g, fs⟩ ('"' :: s) := by
  induction g generalizing f b with
  | nil => exact ⟨b, by rw [doubled, List.nil_append, List.append_nil]⟩
  | cons c g ih =>
    have hassoc : f ++ c :: g = (f ++ [c]) ++ g := by rw [List.append_assoc]; rfl
    rw [hassoc]
    by_cases hquote : c = '"'
    · subst hquote
      obtain ⟨b', ih⟩ := @ih (f ++ ['"']) true
      refine ⟨b', ?_⟩
      rw [doubled, if_pos rfl, List.cons_append, List.cons_append, ← ih]
      exact (read_of_char rfl (by decide)).trans (read_of_char rfl (by decide))
    · have hchar : Reader.char delim c ⟨.inQuoted, f, fs⟩ = some ⟨.inQuoted, f ++ [c], fs⟩ := by
        rw [Reader.char]
        simp [hquote, Reader.add]
      rw [doubled, if_neg hquote, List.cons_append]
      by_cases hline : c = '\n'
      · -- the line ends with the quote open, and the row goes on in the next one
        subst hline
        obtain ⟨b', ih⟩ := @ih (f ++ ['\n']) false
        refine ⟨b', ?_⟩
        rw [← ih, read, hchar]
        exact (if_pos rfl).trans (if_neg fun h => by cases h)
      · obtain ⟨b', ih⟩ := @ih (f ++ [c]) true
        exact ⟨b', (read_of_char hchar hline).trans ih⟩

/-- A field up to what ends it: the delimiter or the line. -/
theorem read_field (hd : Plain delim) (hc : c = delim ∨ c = '\r') (b : Bool) :
    read delim b ⟨.startField, [], fs⟩ (writeField delim f ++ c :: s) =
      read delim true ⟨if c = delim then .startField else .eatNewline, [], fs ++ [f]⟩ s := by
  have hcline : c ≠ '\n' := by
    rintro rfl
    rcases hc with h | h
    · exact (ne_newline hd.2).2 h.symm
    · cases h
  have hcquote : c ≠ '"' := by
    rintro rfl
    rcases hc with h | h
    · exact hd.1 h.symm
    · cases h
  have hnew : isNewline c = true ↔ c ≠ delim := by
    constructor
    · rintro h rfl
      rw [hd.2] at h
      cases h
    · intro h
      rw [hc.resolve_left h]
      rfl
  have hson (mode : Mode) (hmode : mode = .startField ∨ mode = .inField ∨ mode = .quoteInQuoted) (f : List Char) :
      Reader.char delim c ⟨mode, f, fs⟩ =
        some ⟨if c = delim then .startField else .eatNewline, [], fs ++ [f]⟩ := by
    rcases hmode with rfl | rfl | rfl <;> by_cases h : c = delim <;>
      simp [Reader.char, Reader.atFieldStart, Reader.save, hnew, hcquote, h, hd.1, hd.2]
  rw [writeField]
  by_cases hspecial : f.any (special delim) = true
  · have hopen : Reader.char delim '"' ⟨.startField, [], fs⟩ = some ⟨.inQuoted, [], fs⟩ := rfl
    have hclose : Reader.char delim '"' ⟨.inQuoted, f, fs⟩ = some ⟨.quoteInQuoted, f, fs⟩ := rfl
    obtain ⟨b', hread⟩ := @read_doubled delim [] f (c :: s) fs true
    rw [if_pos hspecial, List.cons_append, read_of_char hopen (by decide), List.append_assoc, List.singleton_append]
    rw [hread, List.nil_append, read_of_char hclose (by decide)]
    exact read_of_char (hson _ (.inr (.inr rfl)) f) hcline
  · have hplain : ∀ c ∈ f, special delim c = false := by simpa using hspecial
    rw [if_neg hspecial]
    cases f with
    | nil => exact read_of_char (hson _ (.inl rfl) []) hcline
    | cons d f =>
      obtain ⟨hdsp, hf⟩ := List.forall_mem_cons.mp hplain
      simp only [special, decide_eq_false_iff_not, not_or, Bool.not_eq_true] at hdsp
      obtain ⟨hddelim, hdquote, hdnew⟩ := hdsp
      have hfirst : Reader.char delim d ⟨.startField, [], fs⟩ = some ⟨.inField, [d], fs⟩ := by
        simp [Reader.char, Reader.atFieldStart, Reader.add, hdnew, hdquote, hddelim]
      rw [List.cons_append, read_of_char hfirst (ne_newline hdnew).2, read_plain hf]
      exact read_of_char (hson _ (.inr (.inl rfl)) (d :: f)) hcline

theorem read_fields (hd : Plain delim) (gs : List (List Char)) (b : Bool) :
    read delim b ⟨.startField, [], fs⟩ (writeFields delim (g :: gs) ++ s) =
      (read delim false .empty s).map ((fs ++ g :: gs) :: ·) := by
  induction gs generalizing fs g b with
  | nil =>
    have hne : '\r' ≠ delim := (ne_newline hd.2).1.symm
    have heol : Reader.char delim '\n' ⟨.eatNewline, [], fs ++ [g]⟩ = some ⟨.eatNewline, [], fs ++ [g]⟩ := rfl
    rw [writeFields, List.append_assoc, List.cons_append, read_field hd (.inr rfl), if_neg hne]
    exact read_eol heol rfl
  | cons h gs ih =>
    rw [writeFields, List.append_assoc, List.cons_append, read_field hd (.inl rfl), if_pos rfl, ih, List.append_assoc]
    rfl

/-- A row that does not begin with a line break begins like any field. -/
theorem read_startRecord (hc : isNewline c = false) :
    read delim b .empty (c :: s) = read delim b ⟨.startField, [], []⟩ (c :: s) := by
  have hchar : Reader.char delim c .empty = Reader.char delim c ⟨.startField, [], []⟩ := by
    simp [Reader.char, Reader.empty, Reader.atFieldStart, hc, Reader.save, Reader.add]
  rw [read, read, hchar]

theorem writeFields_head (hd : Plain delim) (h : fs ≠ [[]]) (hne : fs ≠ []) :
    ∃ c t, writeFields delim fs = c :: t ∧ isNewline c = false := by
  have hfield : ∀ f : List Char, f ≠ [] → ∃ c t, writeField delim f = c :: t ∧ isNewline c = false := by
    intro f hf
    rw [writeField]
    split_ifs with hspecial
    · exact ⟨_, _, rfl, rfl⟩
    · obtain ⟨c, t, rfl⟩ := List.exists_cons_of_ne_nil hf
      refine ⟨c, t, rfl, ?_⟩
      have hplain : ∀ d ∈ c :: t, special delim d = false := by simpa using hspecial
      have hc := hplain c List.mem_cons_self
      simp only [special, decide_eq_false_iff_not, not_or, Bool.not_eq_true] at hc
      exact hc.2.2
  cases fs with
  | nil => exact absurd rfl hne
  | cons f fs =>
    cases fs with
    | nil =>
      obtain ⟨c, t, hct, hc⟩ := hfield f fun hf => h (by rw [hf])
      exact ⟨c, t ++ ['\r', '\n'], by rw [writeFields, hct]; rfl, hc⟩
    | cons g fs =>
      by_cases hf : f = []
      · subst hf
        exact ⟨delim, writeFields delim (g :: fs), rfl, hd.2⟩
      · obtain ⟨c, t, hct, hc⟩ := hfield f hf
        exact ⟨c, t ++ delim :: writeFields delim (g :: fs), by rw [writeFields, hct]; rfl, hc⟩

theorem read_row (hd : Plain delim) (fs : List (List Char)) (s : List Char) :
    read delim false .empty (writeRow delim fs ++ s) = (read delim false .empty s).map (fs :: ·) := by
  rw [writeRow]
  split_ifs with hlone
  · subst hlone
    have hopen : Reader.char delim '"' .empty = some ⟨.inQuoted, [], []⟩ := rfl
    have hclose : Reader.char delim '"' ⟨.inQuoted, [], []⟩ = some ⟨.quoteInQuoted, [], []⟩ := rfl
    have hend : Reader.char delim '\r' ⟨.quoteInQuoted, [], []⟩ = some ⟨.eatNewline, [], [[]]⟩ := by
      simp [Reader.char, Reader.save, (ne_newline hd.2).1.symm, show isNewline '\r' = true from rfl]
    change read delim false .empty ('"' :: '"' :: '\r' :: '\n' :: s) = _
    rw [read_of_char hopen (by decide), read_of_char hclose (by decide)]
    exact read_lineEnd hend
  · cases fs with
    | nil => exact read_lineEnd rfl
    | cons g gs =>
      obtain ⟨c, t, hct, hc⟩ := writeFields_head hd hlone (List.cons_ne_nil g gs)
      have hfields := @read_fields delim g s [] hd gs false
      rw [hct, List.cons_append] at hfields ⊢
      rw [read_startRecord hc, hfields]
      rfl

/-- Whatever the fields hold: what was written is read back. -/
theorem read_write (hd : Plain delim) (rows : List (List (List Char))) :
    read delim false .empty (write delim rows) = some rows := by
  induction rows with
  | nil => rfl
  | cons fs rows ih =>
    rw [write, List.flatMap_cons, read_row hd, ← write, ih]
    rfl

end Reading

end FinancialOs.Library.Csv
