import ClientAuth.Metrics.Exposition
import ClientAuth.Proofs.TextPieces

/-! The text format of samples, written and read back. In the value of a label it escapes quotation
marks, backslashes and line breaks. Main statements: `readText?_document`, what is written by this
rule is read back, whatever the values are; `document_eq_iff`, values that are written as they stand
make the same text exactly if they hold nothing that has to be escaped. -/
namespace ClientAuth

namespace Text

variable {α : Type} {separator : Char} {f g : α → List Char} {items : List α}

theorem length_joinWith_map_le (h : ∀ item ∈ items, (f item).length ≤ (g item).length) :
    (joinWith separator (items.map f)).length ≤ (joinWith separator (items.map g)).length := by
  induction items with
  | nil => exact Nat.le_refl 0
  | cons item items ih =>
      have hItem := h item List.mem_cons_self
      cases items with
      | nil => exact hItem
      | cons next items =>
          have hRest := ih fun other hMem => h other (.tail item hMem)
          simp only [List.map_cons, joinWith, List.length_append, List.length_cons] at hRest ⊢
          omega

/-- Pieces of which none gets shorter make the same text only if none changes. -/
theorem map_eq_of_joinWith_eq (h : ∀ item ∈ items, (f item).length ≤ (g item).length)
    (hJoin : joinWith separator (items.map f) = joinWith separator (items.map g)) :
    ∀ item ∈ items, f item = g item := by
  induction items with
  | nil => nofun
  | cons item items ih =>
      have hItem := h item List.mem_cons_self
      have hItems : ∀ other ∈ items, (f other).length ≤ (g other).length :=
        fun other hMem => h other (.tail item hMem)
      cases items with
      | nil =>
          intro other hMem
          obtain rfl := List.mem_singleton.mp hMem
          exact hJoin
      | cons next items =>
          have hRest : (joinWith separator ((next :: items).map f)).length ≤
              (joinWith separator ((next :: items).map g)).length :=
            length_joinWith_map_le hItems
          have hAll := congrArg List.length hJoin
          simp only [List.map_cons, joinWith, List.length_append,
            List.length_cons] at hAll hRest hJoin
          obtain ⟨hSame, hTail⟩ := List.append_inj hJoin (by omega)
          have hMore := ih hItems (List.cons.inj hTail).2
          intro other hMem
          rcases List.mem_cons.mp hMem with rfl | hMem
          · exact hSame
          · exact hMore other hMem

theorem splitOn_joinWith_append {pieces : List (List Char)} (hSome : pieces ≠ [])
    (h : ∀ piece ∈ pieces, separator ∉ piece) (rest : List Char) :
    splitOn separator (joinWith separator pieces ++ separator :: rest) =
      pieces ++ splitOn separator rest := by
  induction pieces with
  | nil => exact absurd rfl hSome
  | cons piece pieces ih =>
      have hPiece := h piece List.mem_cons_self
      cases pieces with
      | nil => exact splitOn_append hPiece rest
      | cons next pieces =>
          have hRest := ih (List.cons_ne_nil next pieces) fun other hMem =>
            h other (.tail piece hMem)
          rw [joinWith, List.append_assoc, List.cons_append, splitOn_append hPiece, hRest]
          · rfl
          · simp

end Text

namespace Exposition

/-- A sample: its name, its labels with their values, and its own value. -/
structure Sample where
  name : String
  labels : List (String × String)
  value : String
deriving DecidableEq, Repr

/-- A line: a sample, or a text that none is read from. -/
inductive Line
  | remark (text : String)
  | sample (sample : Sample)

/-- One character inside the value of a label. -/
def escape (c : Char) : List Char :=
  if c = '"' then ['\\', '"']
  else if c = '\\' then ['\\', '\\']
  else if c = '\n' then ['\\', 'n']
  else [c]

def escaped (value : String) : String := String.ofList (value.toList.flatMap escape)

/-- A value has nothing that has to be escaped. -/
def IsPlain (value : String) : Prop := ∀ c ∈ value.toList, c ≠ '"' ∧ c ≠ '\\' ∧ c ≠ '\n'

instance (value : String) : Decidable (IsPlain value) :=
  List.decidableBAll (fun c : Char => c ≠ '"' ∧ c ≠ '\\' ∧ c ≠ '\n') value.toList

/-- A label, its value spelled in some way. -/
def labelText (spell : String → String) (entry : String × String) : String :=
  label entry.1 (spell entry.2)

/-- The text of a sample, the values of its labels spelled in some way. -/
def Sample.text (spell : String → String) (s : Sample) : String :=
  match s.labels with
  | [] => s.name ++ " " ++ s.value
  | labels =>
      s.name ++ "\x7b" ++ ",".intercalate (labels.map (labelText spell)) ++ "\x7d " ++ s.value

def Line.text (spell : String → String) : Line → String
  | remark text => text
  | sample s => s.text spell

def Line.sample? : Line → Option Sample
  | remark _ => none
  | sample s => some s

/-- Lines as a text. Every line ends with a line break. -/
def document (spell : String → String) (lines : List Line) : String :=
  "\n".intercalate (lines.map (Line.text spell)) ++ "\n"

/-! ### Reading -/

/-- A character more in front of what was read. -/
def prepend (c : Char) (read : List Char × List Char) : List Char × List Char :=
  (c :: read.1, read.2)

/-- The value of a label up to the quotation mark that ends it, and what follows. -/
def readValue? : List Char → Option (List Char × List Char)
  | [] => none
  | '"' :: rest => some ([], rest)
  | '\\' :: '"' :: rest => (readValue? rest).map (prepend '"')
  | '\\' :: '\\' :: rest => (readValue? rest).map (prepend '\\')
  | '\\' :: 'n' :: rest => (readValue? rest).map (prepend '\n')
  | c :: rest => if c = '\\' then none else (readValue? rest).map (prepend c)

def isNameChar (c : Char) : Bool := c.isAlphanum || c = '_' || c = ':'

/-- A label with its value, and what follows. -/
def readLabel? (chars : List Char) : Option ((String × String) × List Char) :=
  match chars.dropWhile isNameChar with
  | '=' :: '"' :: rest =>
      (readValue? rest).map fun (value, left) =>
        ((String.ofList (chars.takeWhile isNameChar), String.ofList value), left)
  | _ => none

theorem exists_of_map_prepend {c : Char} {read : Option (List Char × List Char)}
    {value left : List Char} (h : read.map (prepend c) = some (value, left)) :
    ∃ front, read = some (front, left) := by
  obtain ⟨⟨front, _⟩, hRead, hPair⟩ := Option.map_eq_some_iff.mp h
  cases hPair
  exact ⟨front, hRead⟩

theorem length_lt_of_readValue? {chars value left : List Char}
    (h : readValue? chars = some (value, left)) : left.length < chars.length := by
  fun_induction readValue? chars generalizing value with
  | case1 => nomatch h
  | case2 rest =>
      cases h
      exact Nat.lt_succ_self _
  | case3 rest ih | case4 rest ih | case5 rest ih =>
      obtain ⟨front, hRead⟩ := exists_of_map_prepend h
      have hLeft := ih hRead
      simp only [List.length_cons]
      omega
  | case6 => nomatch h
  | case7 c rest _ _ _ _ _ ih =>
      obtain ⟨front, hRead⟩ := exists_of_map_prepend h
      exact Nat.lt_succ_of_lt (ih hRead)

theorem length_lt_of_readLabel? {chars left : List Char} {label : String × String}
    (h : readLabel? chars = some (label, left)) : left.length < chars.length := by
  rw [readLabel?] at h
  split at h
  next rest hRest =>
    obtain ⟨⟨value, _⟩, hValue, hPair⟩ := Option.map_eq_some_iff.mp h
    cases hPair
    have hLeft := length_lt_of_readValue? hValue
    have hDropped := (List.dropWhile_sublist isNameChar (l := chars)).length_le
    simp only [hRest, List.length_cons] at hDropped
    omega
  next => nomatch h

/-- Labels up to the brace that ends them, and what follows. -/
def readLabels? (chars : List Char) : Option (List (String × String) × List Char) :=
  match _ : readLabel? chars with
  | none => none
  | some (_, []) => none
  | some (label, c :: rest) =>
      if c = ',' then (readLabels? rest).map fun (labels, left) => (label :: labels, left)
      else if c = '\x7d' then some ([label], rest)
      else none
termination_by chars.length
decreasing_by
  have hLeft := length_lt_of_readLabel? ‹_›
  simp only [List.length_cons] at hLeft
  omega

/-- The sample of a line. -/
def readSample? (line : List Char) : Option Sample :=
  let name := String.ofList (line.takeWhile isNameChar)
  match line.dropWhile isNameChar with
  | ' ' :: value => some ⟨name, [], String.ofList value⟩
  | '\x7b' :: rest =>
      match readLabels? rest with
      | some (labels, ' ' :: value) => some ⟨name, labels, String.ofList value⟩
      | _ => none
  | _ => none

/-- Whether a line has a sample: it is not empty and no remark. -/
def hasSample : List Char → Bool
  | [] => false
  | c :: _ => c ≠ '#'

def sampleLines (text : String) : List (List Char) :=
  (Text.splitOn '\n' text.toList).filter hasSample

/-- The samples of a text, if every line that has one can be read. -/
def readText? (text : String) : Option (List Sample) := (sampleLines text).mapM readSample?

/-! ### What is written is read back -/

theorem readValue?_escape (c : Char) (rest : List Char) :
    readValue? (escape c ++ rest) = (readValue? rest).map (prepend c) := by
  unfold escape
  split
  next h => rw [h]; rfl
  split
  next h => rw [h]; rfl
  split
  next h => rw [h]; rfl
  next hQuote hSlash hBreak => simp [readValue?, hSlash]

theorem readValue?_escaped (value : List Char) (rest : List Char) :
    readValue? (value.flatMap escape ++ '"' :: rest) = some (value, rest) := by
  induction value with
  | nil => rfl
  | cons c value ih =>
      rw [List.flatMap_cons, List.append_assoc, readValue?_escape, ih]
      rfl

/-- A name is a text of its characters alone. -/
def IsName (name : String) : Prop := name ≠ "" ∧ ∀ c ∈ name.toList, isNameChar c = true

instance (name : String) : Decidable (IsName name) :=
  have := List.decidableBAll (fun c => isNameChar c = true) name.toList
  inferInstanceAs (Decidable (name ≠ "" ∧ ∀ c ∈ name.toList, isNameChar c = true))

theorem readLabel?_labelText {entry : String × String} (hName : IsName entry.1)
    (rest : List Char) :
    readLabel? ((labelText escaped entry).toList ++ rest) = some (entry, rest) := by
  obtain ⟨name, value⟩ := entry
  have hText : (labelText escaped (name, value)).toList ++ rest =
      name.toList ++ '=' :: '"' :: (value.toList.flatMap escape ++ '"' :: rest) := by
    simp [labelText, label, escaped]
  have hEnd : isNameChar '=' = false := by decide
  rw [hText, readLabel?, List.dropWhile_append_of_pos hName.2, List.takeWhile_append_of_pos hName.2]
  simp [hEnd, readValue?_escaped]

theorem readLabels?_eq {chars rest : List Char} {label : String × String} {c : Char}
    (h : readLabel? chars = some (label, c :: rest)) :
    readLabels? chars =
      if c = ',' then (readLabels? rest).map fun (labels, left) => (label :: labels, left)
      else if c = '\x7d' then some ([label], rest)
      else none := by
  rw [readLabels?]
  split
  next hNone => simp [h] at hNone
  next hEnd => simp [h] at hEnd
  next hRead =>
    cases h.symm.trans hRead
    rfl

/-- The texts of labels between commas. -/
def labelsText (spell : String → String) (labels : List (String × String)) : List Char :=
  Text.joinWith ',' (labels.map fun entry => (labelText spell entry).toList)

theorem readLabels?_labelsText {labels : List (String × String)} (hSome : labels ≠ [])
    (hNames : ∀ entry ∈ labels, IsName entry.1) (rest : List Char) :
    readLabels? (labelsText escaped labels ++ '\x7d' :: rest) = some (labels, rest) := by
  induction labels with
  | nil => exact absurd rfl hSome
  | cons entry labels ih =>
      have hName := hNames entry List.mem_cons_self
      cases labels with
      | nil => exact readLabels?_eq (readLabel?_labelText hName _)
      | cons next labels =>
          have hRest := ih (List.cons_ne_nil next labels) fun other hMem =>
            hNames other (.tail entry hMem)
          have hText : labelsText escaped (entry :: next :: labels) ++ '\x7d' :: rest =
              (labelText escaped entry).toList ++
                ',' :: (labelsText escaped (next :: labels) ++ '\x7d' :: rest) := by
            simp [labelsText, Text.joinWith]
          rw [hText, readLabels?_eq (readLabel?_labelText hName _), hRest]
          rfl

/-- A sample that the format can hold: what is not the value of a label is of its kind. -/
structure Sample.IsRegular (s : Sample) : Prop where
  name : IsName s.name
  labels : ∀ entry ∈ s.labels, IsName entry.1
  value : '\n' ∉ s.value.toList

theorem Sample.toList_text_nil (spell : String → String) (name value : String) :
    (Sample.text spell ⟨name, [], value⟩).toList = name.toList ++ ' ' :: value.toList := by
  simp [Sample.text]

theorem Sample.toList_text {s : Sample} (h : s.labels ≠ []) (spell : String → String) :
    (s.text spell).toList = s.name.toList ++
      '\x7b' :: (labelsText spell s.labels ++ '\x7d' :: ' ' :: s.value.toList) := by
  obtain ⟨name, labels, value⟩ := s
  have hComma : "," = String.singleton ',' := rfl
  cases labels with
  | nil => exact absurd rfl h
  | cons entry labels =>
      rw [Sample.text, hComma]
      simp only [String.toList_append, Text.toList_intercalate_single, List.map_map]
      simp [labelsText, Function.comp_def]

theorem Sample.readSample?_text {s : Sample} (h : s.IsRegular) :
    readSample? (s.text escaped).toList = some s := by
  have hBlank : isNameChar ' ' = false := by decide
  have hBrace : isNameChar '\x7b' = false := by decide
  obtain ⟨name, labels, value⟩ := s
  cases labels with
  | nil =>
      rw [toList_text_nil, readSample?, List.dropWhile_append_of_pos h.name.2,
        List.takeWhile_append_of_pos h.name.2]
      simp [hBlank]
  | cons entry labels =>
      have hSome : entry :: labels ≠ [] := List.cons_ne_nil entry labels
      have hLabels := readLabels?_labelsText hSome h.labels (' ' :: value.toList)
      rw [toList_text hSome, readSample?, List.dropWhile_append_of_pos h.name.2,
        List.takeWhile_append_of_pos h.name.2]
      simp only [List.dropWhile_cons, List.takeWhile_cons, hBrace, Bool.false_eq_true, if_false]
      rw [hLabels]
      simp

theorem break_not_mem_name {name : String} (h : IsName name) : '\n' ∉ name.toList := by
  intro hMem
  have hOther : isNameChar '\n' = false := by decide
  exact Bool.false_ne_true (hOther.symm.trans (h.2 '\n' hMem))

theorem break_not_mem_escape (c : Char) : '\n' ∉ escape c := by
  unfold escape
  split
  · decide
  split
  · decide
  split
  · decide
  next hBreak => exact fun hMem => hBreak (List.mem_singleton.mp hMem).symm

theorem break_not_mem_labelText {entry : String × String} (h : IsName entry.1) :
    '\n' ∉ (labelText escaped entry).toList := by
  simp [labelText, label, escaped, break_not_mem_name h, break_not_mem_escape]

theorem Sample.break_not_mem_text {s : Sample} (h : s.IsRegular) :
    '\n' ∉ (s.text escaped).toList := by
  obtain ⟨name, labels, value⟩ := s
  have hName := break_not_mem_name h.name
  have hValue := h.value
  cases labels with
  | nil => simpa [Sample.text] using ⟨hName, hValue⟩
  | cons entry labels =>
      have hLabels : '\n' ∉ labelsText escaped (entry :: labels) := by
        intro hMem
        rcases Text.mem_joinWith hMem with hComma | ⟨piece, hPiece, hIn⟩
        · exact absurd hComma (by decide)
        · obtain ⟨other, hOther, rfl⟩ := List.mem_map.mp hPiece
          exact break_not_mem_labelText (h.labels other hOther) hIn
      rw [toList_text (List.cons_ne_nil entry labels)]
      simpa using ⟨hName, hLabels, hValue⟩

/-- A line that the format can hold: its sample is regular, and what is none does not look like
one. -/
def Line.IsRegular : Line → Prop
  | remark text => '\n' ∉ text.toList ∧ hasSample text.toList = false
  | sample s => s.IsRegular

theorem Line.break_not_mem_text {line : Line} (h : line.IsRegular) :
    '\n' ∉ (line.text escaped).toList := by
  cases line with
  | remark text => exact h.1
  | sample s => exact Sample.break_not_mem_text h

theorem hasSample_of_isName {name : String} (h : IsName name) (rest : List Char) :
    hasSample (name.toList ++ rest) = true := by
  cases hName : name.toList with
  | nil => exact absurd (String.toList_eq_nil_iff.mp hName) h.1
  | cons c chars =>
      have hFirst := h.2 c (hName ▸ List.mem_cons_self)
      have hSign : isNameChar '#' = false := by decide
      refine decide_eq_true fun hSame => ?_
      rw [hSame, hSign] at hFirst
      nomatch hFirst

theorem Sample.hasSample_text {s : Sample} (h : s.IsRegular) :
    hasSample (s.text escaped).toList = true := by
  obtain ⟨name, labels, value⟩ := s
  cases labels with
  | nil =>
      rw [toList_text_nil]
      exact hasSample_of_isName h.name _
  | cons entry labels =>
      rw [toList_text (List.cons_ne_nil entry labels)]
      exact hasSample_of_isName h.name _

theorem toList_document (spell : String → String) (lines : List Line) :
    (document spell lines).toList =
      Text.joinWith '\n' (lines.map fun line => (line.text spell).toList) ++ ['\n'] := by
  have hBreak : "\n" = String.singleton '\n' := rfl
  rw [document, hBreak, String.toList_append, Text.toList_intercalate_single, List.map_map]
  rfl

theorem mapM_readSample?_lines {lines : List Line} (h : ∀ line ∈ lines, line.IsRegular) :
    ((lines.map fun line => (line.text escaped).toList).filter hasSample).mapM readSample? =
      some (lines.filterMap Line.sample?) := by
  induction lines with
  | nil => rfl
  | cons line lines ih =>
      have hLine := h line List.mem_cons_self
      have hRest := ih fun other hMem => h other (.tail line hMem)
      cases line with
      | remark text =>
          rw [List.map_cons, Line.text, List.filter_cons_of_neg (by simp [hLine.2]), hRest]
          rfl
      | sample s =>
          rw [List.map_cons, Line.text, List.filter_cons_of_pos (Sample.hasSample_text hLine),
            List.mapM_cons, Sample.readSample?_text hLine, hRest]
          rfl

/-- What is written by the rules of the format is read back, whatever the values of labels are. -/
theorem readText?_document {lines : List Line} (h : ∀ line ∈ lines, line.IsRegular) :
    readText? (document escaped lines) = some (lines.filterMap Line.sample?) := by
  cases lines with
  | nil => rfl
  | cons first lines =>
      have hBreaks : ∀ piece ∈ (first :: lines).map fun line => (line.text escaped).toList,
          '\n' ∉ piece := by
        intro piece hMem
        obtain ⟨line, hLine, rfl⟩ := List.mem_map.mp hMem
        exact Line.break_not_mem_text (h line hLine)
      have hEnd : Text.splitOn '\n' [] = [[]] := rfl
      rw [readText?, sampleLines, toList_document,
        Text.splitOn_joinWith_append (by simp) hBreaks, hEnd, List.filter_append,
        List.filter_cons_of_neg (by simp [hasSample]), List.filter_nil, List.append_nil,
        mapM_readSample?_lines h]

/-! ### What is written as it stands -/

theorem length_escape (c : Char) :
    (escape c).length = if c = '"' ∨ c = '\\' ∨ c = '\n' then 2 else 1 := by
  grind [escape]

theorem length_le_flatMap_escape (chars : List Char) :
    chars.length ≤ (chars.flatMap escape).length := by
  induction chars with
  | nil => exact Nat.le_refl 0
  | cons c chars ih =>
      have hFirst := length_escape c
      rw [List.flatMap_cons, List.length_append, List.length_cons]
      split at hFirst
      · omega
      · omega

/-- What has to be escaped gets longer. -/
theorem flatMap_escape_eq_iff (chars : List Char) :
    chars.flatMap escape = chars ↔ ∀ c ∈ chars, c ≠ '"' ∧ c ≠ '\\' ∧ c ≠ '\n' := by
  induction chars with
  | nil => simp
  | cons c chars ih =>
      rw [List.flatMap_cons, List.forall_mem_cons]
      by_cases hSpecial : c = '"' ∨ c = '\\' ∨ c = '\n'
      · have hTwo : (escape c).length = 2 := by rw [length_escape, if_pos hSpecial]
        refine iff_of_false (fun hSame => ?_) fun h => ?_
        · have hLength := congrArg List.length hSame
          have hRest := length_le_flatMap_escape chars
          rw [List.length_append, List.length_cons] at hLength
          omega
        · obtain ⟨hQuote, hSlash, hBreak⟩ := h.1
          simp [hQuote, hSlash, hBreak] at hSpecial
      · simp only [not_or] at hSpecial
        have hSelf : escape c = [c] := by simp [escape, hSpecial]
        simp [hSelf, hSpecial, ih]

theorem length_labelText_le (entry : String × String) :
    (labelText id entry).toList.length ≤ (labelText escaped entry).toList.length := by
  have hValue := length_le_flatMap_escape entry.2.toList
  simp only [labelText, label, escaped, String.toList_append, String.toList_ofList,
    List.length_append, id]
  omega

theorem labelText_eq_iff (entry : String × String) :
    (labelText id entry).toList = (labelText escaped entry).toList ↔ IsPlain entry.2 := by
  rw [IsPlain, ← flatMap_escape_eq_iff]
  simp [labelText, label, escaped, eq_comm]

theorem Sample.length_text_le (s : Sample) :
    (s.text id).toList.length ≤ (s.text escaped).toList.length := by
  obtain ⟨name, labels, value⟩ := s
  cases labels with
  | nil => exact Nat.le_refl _
  | cons entry labels =>
      have hSome : entry :: labels ≠ [] := List.cons_ne_nil entry labels
      have hLabels : (labelsText id (entry :: labels)).length ≤
          (labelsText escaped (entry :: labels)).length :=
        Text.length_joinWith_map_le fun other _ => length_labelText_le other
      rw [toList_text hSome, toList_text hSome]
      simp only [List.length_append, List.length_cons]
      omega

theorem Sample.text_eq_iff (s : Sample) :
    (s.text id).toList = (s.text escaped).toList ↔ ∀ entry ∈ s.labels, IsPlain entry.2 := by
  obtain ⟨name, labels, value⟩ := s
  cases labels with
  | nil => exact iff_of_true rfl nofun
  | cons entry labels =>
      have hSome : entry :: labels ≠ [] := List.cons_ne_nil entry labels
      simp only [← labelText_eq_iff]
      rw [toList_text hSome, toList_text hSome, List.append_cancel_left_eq, List.cons.injEq,
        List.append_cancel_right_eq]
      constructor
      · intro hSame
        exact Text.map_eq_of_joinWith_eq (fun other _ => length_labelText_le other) hSame.2
      · intro hSame
        exact ⟨rfl, congrArg (Text.joinWith ',') (List.map_congr_left hSame)⟩

theorem Line.length_text_le (line : Line) :
    (line.text id).toList.length ≤ (line.text escaped).toList.length := by
  cases line with
  | remark text => exact Nat.le_refl _
  | sample s => exact s.length_text_le

/-- The values of labels can be written as they stand exactly if none has to be escaped. -/
theorem document_eq_iff (lines : List Line) :
    document id lines = document escaped lines ↔
      ∀ s ∈ lines.filterMap Line.sample?, ∀ entry ∈ s.labels, IsPlain entry.2 := by
  have hLines : (∀ line ∈ lines, (line.text id).toList = (line.text escaped).toList) ↔
      ∀ s ∈ lines.filterMap Line.sample?, ∀ entry ∈ s.labels, IsPlain entry.2 := by
    simp only [← Sample.text_eq_iff, List.mem_filterMap]
    constructor
    · rintro h s ⟨line, hMem, hSample⟩
      cases line with
      | remark text => nomatch hSample
      | sample other =>
          cases hSample
          exact h _ hMem
    · intro h line hMem
      cases line with
      | remark text => rfl
      | sample s => exact h s ⟨_, hMem, rfl⟩
  rw [← hLines, ← String.toList_inj, toList_document, toList_document,
    List.append_cancel_right_eq]
  constructor
  · exact Text.map_eq_of_joinWith_eq fun line _ => line.length_text_le
  · exact fun h => congrArg (Text.joinWith '\n') (List.map_congr_left h)

end Exposition
end ClientAuth
