import CallAtlas.Text.Line
import CallAtlas.Text.Piece

set_option autoImplicit false
set_option relaxedAutoImplicit false

namespace CallAtlas.Text

/-- Where a line of a text can start: at its beginning or right after a newline. -/
def IsLineEdge (head : List Char) : Prop := head = [] ∨ ∃ before, head = before ++ ['\n']

/-- A text with one more line, which ends with a newline unless it is the last one. -/
inductive InsertsLine (row : List Char) : List Char → List Char → Prop
  | between {head tail : List Char} (edge : IsLineEdge head) :
      InsertsLine row (head ++ tail) (head ++ (row ++ '\n' :: tail))
  | last {text : List Char} (edge : IsLineEdge text) : InsertsLine row text (text ++ row)
  | behind {text : List Char} : InsertsLine row text (text ++ '\n' :: row)

theorem lines_of_notMem {text : List Char} (plain : '\n' ∉ text) (some : text ≠ []) :
    lines text = [text] := by
  induction text with
  | nil => exact absurd rfl some
  | cons c rest ih =>
    obtain ⟨first, later⟩ := not_or.mp fun equal => plain (List.mem_cons.mpr equal)
    have alone : c = '\r' → rest.head? ≠ Option.some '\n' :=
      fun _ same => later (List.mem_of_head? same)
    rw [lines_cons (Ne.symm first) alone]
    cases rest with
    | nil => rw [lines_nil]
    | cons d others => rw [ih later (List.cons_ne_nil d others)]

section Collect

variable {α : Type} {collect : List Char → Option α}

theorem filterMap_lines_joinWith (empty : collect [] = none)
    (returns : ∀ row, collect (withoutReturn row) = collect row) {parts : List (List Char)}
    (some : parts ≠ []) (plain : ∀ part ∈ parts, '\n' ∉ part) :
    (lines (joinWith '\n' parts)).filterMap collect = parts.filterMap collect := by
  induction parts with
  | nil => exact absurd rfl some
  | cons part rest ih =>
    have first := plain part List.mem_cons_self
    cases rest with
    | nil =>
      by_cases bare : part = []
      · subst bare
        rw [joinWith, lines_nil, List.filterMap_cons_none empty]
      · rw [joinWith, lines_of_notMem first bare]
    | cons next others =>
      have later := ih (List.cons_ne_nil next others) fun other inside =>
        plain other (List.mem_cons_of_mem part inside)
      rw [joinWith, lines_append_newline first, List.filterMap_cons, List.filterMap_cons,
        returns part, later]
      exact List.cons_ne_nil next others

theorem filterMap_lines (empty : collect [] = none)
    (returns : ∀ row, collect (withoutReturn row) = collect row) (text : List Char) :
    (lines text).filterMap collect = (pieces '\n' text).filterMap collect := by
  have collected := filterMap_lines_joinWith empty returns (pieces_ne_nil '\n' text)
    fun _ inside => notMem_of_mem_pieces inside
  rwa [joinWith_pieces] at collected

theorem filterMap_pieces_newline (text rest : List Char) :
    (pieces '\n' (text ++ '\n' :: rest)).filterMap collect =
      (pieces '\n' text).filterMap collect ++ (pieces '\n' rest).filterMap collect := by
  rw [pieces_append_cons, List.filterMap_append]

theorem filterMap_pieces_row {row : List Char} (plain : '\n' ∉ row) (nothing : collect row = none) :
    (pieces '\n' row).filterMap collect = [] := by
  rw [pieces_of_notMem plain, List.filterMap_cons_none nothing, List.filterMap_nil]

/-- A line that gives nothing changes nothing, wherever it stands. -/
theorem filterMap_lines_of_insertsLine (empty : collect [] = none)
    (returns : ∀ row, collect (withoutReturn row) = collect row) {row text longer : List Char}
    (plain : '\n' ∉ row) (nothing : collect row = none) (inserts : InsertsLine row text longer) :
    (lines longer).filterMap collect = (lines text).filterMap collect := by
  have silent := filterMap_pieces_row plain nothing
  have bare := filterMap_pieces_row List.not_mem_nil empty
  rw [filterMap_lines empty returns, filterMap_lines empty returns]
  cases inserts with
  | @between head tail edge =>
    rcases edge with rfl | ⟨before, rfl⟩
    · rw [List.nil_append, List.nil_append, filterMap_pieces_newline, silent, List.nil_append]
    · rw [List.append_assoc, List.append_assoc, List.singleton_append, List.singleton_append,
        filterMap_pieces_newline, filterMap_pieces_newline, filterMap_pieces_newline, silent,
        List.nil_append]
  | last edge =>
    rcases edge with rfl | ⟨before, rfl⟩
    · rw [List.nil_append, silent, bare]
    · rw [List.append_assoc, List.singleton_append, filterMap_pieces_newline,
        filterMap_pieces_newline, silent, bare]
  | behind => rw [filterMap_pieces_newline, silent, List.append_nil]

end Collect

end CallAtlas.Text
