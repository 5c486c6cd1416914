import CallAtlas.Proofs.Hits
import CallAtlas.Proofs.Path

set_option autoImplicit false
set_option relaxedAutoImplicit false

namespace CallAtlas.Hits

/-! Records. -/

/-- A row cut at its first NUL, or at its first colon if it has no NUL. -/
def IsCut (row path rest : List Char) : Prop :=
  row = path ++ '\x00' :: rest ∧ '\x00' ∉ path ∨
    '\x00' ∉ row ∧ row = path ++ ':' :: rest ∧ ':' ∉ path

/-- A positive line number stands before the first colon, possibly between blanks. -/
def IsNumbered (rest : List Char) (line : Nat) : Prop :=
  ∃ number text, rest = number ++ ':' :: text ∧ ':' ∉ number ∧
    Text.IsNumeral Text.wordMax (Text.trim number) line ∧ line ≠ 0

/-- A row is the record of an occurrence. -/
def Occurrence.WrittenIn (o : Occurrence) (row : List Char) : Prop :=
  o.file.IsText ∧ ∃ rest, IsCut row o.file.text.toList rest ∧ o.file.text.toList ≠ [] ∧
    IsNumbered rest o.line

theorem cutRow?_eq_some {row path rest : List Char} :
    cutRow? row = some (path, rest) ↔ IsCut row path rest := by
  have cut : Text.cutAt? '\x00' row = some (path, rest) ↔ _ := Text.cutAt?_eq_some
  unfold cutRow? IsCut
  rw [← cut]
  cases found : Text.cutAt? '\x00' row with
  | some parts =>
    have inside : '\x00' ∈ row := by
      rw [(Text.cutAt?_eq_some.mp found).1]
      simp
    simp only [inside, not_true_eq_false, false_and, or_false]
  | none =>
    have absent := Text.cutAt?_eq_none.mp found
    simp only [Text.cutAt?_eq_some, absent, not_false_eq_true, true_and, reduceCtorEq, false_or]

theorem lineBeforeColon?_eq_some {rest : List Char} {line : Nat} :
    lineBeforeColon? rest = some line ↔ IsNumbered rest line := by
  unfold lineBeforeColon? IsNumbered
  cases found : Text.cutAt? ':' rest with
  | none =>
    have absent := Text.cutAt?_eq_none.mp found
    constructor
    · intro h
      cases h
    · rintro ⟨number, text, rfl, -⟩
      simp at absent
  | some parts =>
    obtain ⟨before, after⟩ := parts
    obtain ⟨split, plain⟩ := Text.cutAt?_eq_some.mp found
    have only (number text : List Char) (h : rest = number ++ ':' :: text) (k : ':' ∉ number) :
        number = before := by
      have same := (Text.cutAt?_eq_some.mpr ⟨h, k⟩).symm.trans found
      exact (Prod.mk.inj (Option.some.inj same)).1
    have numeral : Text.readWord (Text.trim before) = .ok line ↔
        Text.IsNumeral Text.wordMax (Text.trim before) line := Text.readNumeral_eq_ok
    constructor
    · intro h
      refine ⟨before, after, split, plain, ?_⟩
      dsimp only at h
      split at h
      · cases h
      · rename_i n positive read
        obtain rfl := Option.some.inj h
        exact ⟨numeral.mp read, positive⟩
      · cases h
    · rintro ⟨number, text, h, k, written, positive⟩
      obtain rfl := only number text h k
      dsimp only
      rw [numeral.mpr written]
      cases line with
      | zero => exact absurd rfl positive
      | succ n => rfl

theorem Occurrence.read?_eq_some {row : List Char} {o : Occurrence} :
    read? row = some o ↔ o.WrittenIn row := by
  unfold read? WrittenIn
  cases found : cutRow? row with
  | none =>
    constructor
    · intro h
      cases h
    · rintro ⟨-, rest, cut, -⟩
      rw [cutRow?_eq_some.mpr cut] at found
      cases found
  | some parts =>
    obtain ⟨before, after⟩ := parts
    have cut := cutRow?_eq_some.mp found
    dsimp only
    constructor
    · intro h
      split at h
      · cases h
      · rename_i n numbered
        split at h
        · cases h
        · rename_i some
          obtain rfl := Option.some.inj h
          rw [Path.text_mk, String.toList_ofList]
          exact ⟨Path.isText_mk _, after, cut, some, lineBeforeColon?_eq_some.mp numbered⟩
    · rintro ⟨whole, rest, cut', some, numbered⟩
      have same := (cutRow?_eq_some.mpr cut').symm.trans found
      obtain ⟨rfl, rfl⟩ := Prod.mk.inj (Option.some.inj same)
      rw [lineBeforeColon?_eq_some.mpr numbered]
      dsimp only
      rw [if_neg some, String.ofList_toList]
      exact congrArg (fun file => Option.some (mk file o.line)) whole.mk_text

/-! A carriage return at the end of a row says nothing. -/

theorem isNumbered_append_return {rest : List Char} {line : Nat} :
    IsNumbered (rest ++ ['\r']) line ↔ IsNumbered rest line := by
  constructor
  · rintro ⟨number, text, split, numbered⟩
    rcases List.eq_nil_or_concat text with rfl | ⟨less, last, rfl⟩
    · have ends := (List.append_inj' split rfl).2
      simp at ends
    · have split : rest ++ ['\r'] = (number ++ ':' :: less) ++ [last] := by simpa using split
      exact ⟨number, less, (List.append_inj' split rfl).1, numbered⟩
  · rintro ⟨number, text, rfl, numbered⟩
    exact ⟨number, text ++ ['\r'], by simp, numbered⟩

theorem isCut_append_return {row path rest : List Char} :
    IsCut (row ++ ['\r']) path (rest ++ ['\r']) ↔ IsCut row path rest := by
  have apart : '\x00' ≠ '\r' := by decide
  have splits (separator : Char) : row ++ ['\r'] = path ++ separator :: (rest ++ ['\r']) ↔
      row = path ++ separator :: rest := by
    rw [← List.cons_append, ← List.append_assoc, List.append_left_inj]
  simp only [IsCut, splits, List.mem_append, List.mem_singleton, apart, or_false]

theorem Occurrence.writtenIn_append_return {o : Occurrence} {row : List Char} :
    o.WrittenIn (row ++ ['\r']) ↔ o.WrittenIn row := by
  constructor
  · rintro ⟨whole, after, cut, some, numbered⟩
    -- What follows the separator ends as the row does, for it is not empty.
    have ends : ∃ rest, after = rest ++ ['\r'] := by
      rcases List.eq_nil_or_concat after with rfl | ⟨rest, last, rfl⟩
      · obtain ⟨number, text, bare, -⟩ := numbered
        simp at bare
      · rw [List.concat_eq_append] at cut
        have same : '\r' = last := by
          rcases cut with ⟨split, -⟩ | ⟨-, split, -⟩ <;>
            exact List.singleton_inj.mp (List.append_inj' (split.trans
              (List.append_assoc _ (_ :: rest) [last]).symm) rfl).2
        exact ⟨rest, by rw [List.concat_eq_append, same]⟩
    obtain ⟨rest, rfl⟩ := ends
    exact ⟨whole, rest, isCut_append_return.mp cut, some, isNumbered_append_return.mp numbered⟩
  · rintro ⟨whole, rest, cut, some, numbered⟩
    exact ⟨whole, rest ++ ['\r'], isCut_append_return.mpr cut, some,
      isNumbered_append_return.mpr numbered⟩

theorem Occurrence.read?_withoutReturn (row : List Char) :
    read? (Text.withoutReturn row) = read? row := by
  apply Option.ext
  intro o
  rw [read?_eq_some, read?_eq_some]
  rcases Text.withoutReturn_or row with same | shorter
  · rw [← same]
  · have longer : o.WrittenIn row ↔ o.WrittenIn (Text.withoutReturn row ++ ['\r']) := by
      rw [← shorter]
    exact (longer.trans writtenIn_append_return).symm

/-! Printed rows. -/

/-- What stands between the path and the line number. -/
inductive Layout
  | nul
  | colon

def Layout.separator : Layout → Char
  | .nul => '\x00'
  | .colon => ':'

/-- The paths that a layout can carry. -/
def Layout.Carries (layout : Layout) (file : Path) : Prop :=
  file.IsText ∧ file.text.toList ≠ [] ∧ '\x00' ∉ file.text.toList ∧ '\n' ∉ file.text.toList ∧
    match layout with
    | .nul => True
    | .colon => ':' ∉ file.text.toList

instance (layout : Layout) (file : Path) : Decidable (layout.Carries file) :=
  match layout with
  | .nul => inferInstanceAs (Decidable (_ ∧ _ ∧ _ ∧ _ ∧ True))
  | .colon => inferInstanceAs (Decidable (_ ∧ _ ∧ _ ∧ _ ∧ ':' ∉ file.text.toList))

/-- The matched texts that may follow the line number. -/
def Layout.Admits (layout : Layout) (text : List Char) : Prop :=
  '\n' ∉ text ∧
    match layout with
    | .nul => True
    | .colon => '\x00' ∉ text

instance (layout : Layout) (text : List Char) : Decidable (layout.Admits text) :=
  match layout with
  | .nul => inferInstanceAs (Decidable (_ ∧ True))
  | .colon => inferInstanceAs (Decidable (_ ∧ '\x00' ∉ text))

/-- A row of an output: an occurrence with its matched text, or anything else. -/
inductive Row
  | record (o : Occurrence) (text : List Char)
  | noise (row : List Char)

def Row.occurrence? : Row → Option Occurrence
  | .record o _ => some o
  | .noise _ => none

def Row.print (layout : Layout) : Row → List Char
  | .record o text =>
    o.file.text.toList ++ layout.separator :: (Text.decimal o.line ++ ':' :: text)
  | .noise row => row

/-- Texts are such that the layout admits, and noise is one row that is no record. -/
def Row.Fits (layout : Layout) : Row → Prop
  | .record _ text => layout.Admits text
  | .noise row => '\n' ∉ row ∧ ∀ o : Occurrence, ¬o.WrittenIn row

theorem Occurrence.not_writtenIn_iff {row : List Char} :
    (∀ o : Occurrence, ¬o.WrittenIn row) ↔ read? row = none := by
  simp only [← read?_eq_some, Option.eq_none_iff_forall_ne_some, ne_eq]

instance (layout : Layout) (row : Row) : Decidable (row.Fits layout) :=
  match row with
  | .record _ text => inferInstanceAs (Decidable (layout.Admits text))
  | .noise _ => decidable_of_iff _ (and_congr Iff.rfl Occurrence.not_writtenIn_iff).symm

def print (layout : Layout) (rows : List Row) : String :=
  String.ofList (Text.unlines (rows.map (Row.print layout)))

section Printed

variable {layout : Layout} {o : Occurrence} {text : List Char}

theorem isNumbered_decimal {line : Nat} (positive : line ≠ 0) (word : line ≤ Text.wordMax)
    (text : List Char) : IsNumbered (Text.decimal line ++ ':' :: text) line := by
  have solid : Text.trim (Text.decimal line) = Text.decimal line :=
    Text.trim_of_solid fun _ inside => Text.isBlank_of_isDigit (Text.isDigit_of_mem_decimal inside)
  have numeral := Text.isNumeral_decimal word
  exact ⟨Text.decimal line, text, rfl, Text.notMem_decimal (by decide) line,
    solid.symm ▸ numeral, positive⟩

theorem writtenIn_print (carried : layout.Carries o.file) (admitted : layout.Admits text)
    (positive : o.line ≠ 0) (word : o.line ≤ Text.wordMax) :
    o.WrittenIn (Row.print layout (.record o text)) := by
  obtain ⟨whole, some, noNul, -, more⟩ := carried
  have numbered := isNumbered_decimal positive word text
  suffices cut : IsCut (Row.print layout (.record o text)) o.file.text.toList
      (Text.decimal o.line ++ ':' :: text) from
    ⟨whole, _, cut, some, numbered⟩
  cases layout with
  | nul => exact .inl ⟨rfl, noNul⟩
  | colon =>
    have bare := Text.notMem_decimal (c := '\x00') (by decide) o.line
    have noNulInRow : '\x00' ∉ Row.print .colon (.record o text) := by
      simp [Row.print, Layout.separator, noNul, bare, admitted.2]
    exact .inr ⟨noNulInRow, rfl, more⟩

theorem filterMap_print {rows : List Row}
    (reads : ∀ row ∈ rows, Occurrence.read? (row.print layout) = row.occurrence?) :
    (rows.map (Row.print layout)).filterMap Occurrence.read? =
      rows.filterMap Row.occurrence? := by
  induction rows with
  | nil => rfl
  | cons row rest ih =>
    have first := reads row List.mem_cons_self
    have others := ih fun other inside => reads other (List.mem_cons_of_mem _ inside)
    rw [List.map_cons, List.filterMap_cons, List.filterMap_cons, first, others]

theorem newline_notMem_print (carried : layout.Carries o.file) (admitted : layout.Admits text) :
    '\n' ∉ Row.print layout (.record o text) := by
  have bare := Text.notMem_decimal (c := '\n') (by decide) o.line
  have apart : '\n' ≠ layout.separator := by cases layout <;> decide
  simp [Row.print, carried.2.2.2.1, apart, bare, admitted.1]

end Printed

/-! Grouping the occurrences of hits again. -/

theorem addTo_of_new {file : Path} {entries : List FileHits}
    (new : ∀ entry ∈ entries, ¬entry.file.Same file) (lines : List Nat) :
    addTo file lines entries = entries ++ [⟨file, lines⟩] := by
  induction entries with
  | nil => rfl
  | cons entry rest ih =>
    rw [addTo, if_neg (new entry List.mem_cons_self),
      ih fun other inside => new other (List.mem_cons_of_mem _ inside), List.cons_append]

theorem addTo_append_self {file : Path} {entries : List FileHits}
    (new : ∀ entry ∈ entries, ¬entry.file.Same file) (lines more : List Nat) :
    addTo file more (entries ++ [⟨file, lines⟩]) = entries ++ [⟨file, lines ++ more⟩] := by
  induction entries with
  | nil => rw [List.nil_append, addTo, if_pos (Path.Same.refl file), List.nil_append]
  | cons entry rest ih =>
    rw [List.cons_append, addTo, if_neg (new entry List.mem_cons_self),
      ih fun other inside => new other (List.mem_cons_of_mem _ inside), List.cons_append]

theorem foldl_add_lines {file : Path} {entries : List FileHits}
    (new : ∀ entry ∈ entries, ¬entry.file.Same file) {lines : List Nat} (more : List Nat)
    {hits : Hits} (known : hits.files = entries ++ [⟨file, lines⟩]) :
    ((more.map (Occurrence.mk file)).foldl (fun hits o => hits.add o.file [o.line]) hits).files =
      entries ++ [⟨file, lines ++ more⟩] := by
  induction more generalizing hits lines with
  | nil =>
    rw [List.append_nil]
    exact known
  | cons line rest ih =>
    have next : (hits.add file [line]).files = entries ++ [⟨file, lines ++ [line]⟩] := by
      rw [files_add, known, addTo_append_self new]
    rw [List.map_cons, List.foldl_cons, ih next, List.append_assoc, List.singleton_append]

theorem foldl_add_occurrencesIn {entries : List FileHits}
    (filled : ∀ entry ∈ entries, entry.lines ≠ []) {hits : Hits}
    (distinct : (hits.files ++ entries).Pairwise fun a b => ¬a.file.Same b.file) :
    ((occurrencesIn entries).foldl (fun hits o => hits.add o.file [o.line]) hits).files =
      hits.files ++ entries := by
  induction entries generalizing hits with
  | nil => exact (List.append_nil _).symm
  | cons entry rest ih =>
    obtain ⟨file, lines⟩ := entry
    cases lines with
    | nil => exact absurd rfl (filled _ List.mem_cons_self)
    | cons line more =>
      have apart := (List.pairwise_append.mp distinct).2.2
      have new : ∀ entry ∈ hits.files, ¬entry.file.Same file := by
        intro entry inside
        exact apart entry inside ⟨file, line :: more⟩ List.mem_cons_self
      have opened : (hits.add file [line]).files = hits.files ++ [⟨file, [line]⟩] := by
        rw [files_add, addTo_of_new new]
      have grown := foldl_add_lines new more opened
      rw [occurrencesIn_cons, List.foldl_append, List.map_cons, List.foldl_cons,
        ih (fun other inside => filled other (List.mem_cons_of_mem _ inside)), grown,
        List.append_assoc]
      · rfl
      · rw [grown, List.append_assoc]
        exact distinct

theorem ext {hits others : Hits} (h : hits.files = others.files) : hits = others := by
  cases hits
  cases others
  cases h
  rfl

theorem ofOccurrences_occurrences {hits : Hits} (filled : ∀ entry ∈ hits.files, entry.lines ≠ []) :
    ofOccurrences hits.occurrences = hits :=
  ext (@foldl_add_occurrencesIn hits.files filled empty hits.distinct)

end CallAtlas.Hits
