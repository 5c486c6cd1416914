import CallAtlas.Path.Relative
import CallAtlas.Proofs.Text.Lossy

set_option autoImplicit false
set_option relaxedAutoImplicit false

namespace CallAtlas.Path

variable {byte : UInt8}

theorem mem_pieces_of_mem_cut {path : Path} {piece : List UInt8} (h : piece ∈ path.cut.2) :
    piece ∈ Text.pieces slash path.bytes := by
  unfold cut at h
  split at h
  · cases h
  · cases h
  · rename_i equal
    exact equal ▸ List.mem_cons_of_mem _ h
  · rename_i equal
    exact equal ▸ List.mem_cons_of_mem _ h
  · exact h

theorem mem_of_mem_cut {path : Path} {piece : List UInt8} (h : piece ∈ path.cut.2)
    (inside : byte ∈ piece) : byte ∈ path.bytes :=
  Text.mem_of_mem_pieces (mem_pieces_of_mem_cut h) inside

theorem mem_spell {anchor : Anchor} {pieces : List (List UInt8)}
    (h : byte ∈ (spell anchor pieces).bytes) :
    byte = slash ∨ byte = dot ∨ ∃ piece ∈ pieces, byte ∈ piece := by
  cases anchor with
  | root =>
    rcases List.mem_cons.mp h with mark | joined
    · exact .inl mark
    · exact (Text.mem_joinWith joined).imp_right .inr
  | here =>
    rcases Text.mem_joinWith h with mark | ⟨piece, inside, member⟩
    · exact .inl mark
    · rcases List.mem_cons.mp inside with rfl | inside
      · exact .inr (.inl (List.mem_singleton.mp member))
      · exact .inr (.inr ⟨piece, inside, member⟩)
  | unwritten => exact (Text.mem_joinWith h).imp_right .inr

theorem dropSegments_sublist (count : Nat) (pieces : List (List UInt8)) :
    (dropSegments count pieces).Sublist pieces := by
  induction pieces generalizing count with
  | nil => cases count <;> exact List.Sublist.refl _
  | cons piece rest ih =>
    cases count with
    | zero => exact List.Sublist.refl _
    | succ count =>
      unfold dropSegments
      split
      · exact (ih _).cons piece
      · exact (ih _).cons piece

theorem trimEnd_sublist (pieces : List (List UInt8)) : (trimEnd pieces).Sublist pieces := by
  have dropped := (List.dropWhile_sublist (l := pieces.reverse) isIdle).reverse
  rwa [List.reverse_reverse] at dropped

theorem trim_sublist (pieces : List (List UInt8)) : (trim pieces).Sublist pieces :=
  (trimEnd_sublist _).trans (List.dropWhile_sublist _)

theorem exists_spelled_of_below? {directory path part : Path}
    (below : below? directory path = some part) :
    ∃ anchor pieces, part = spell anchor pieces ∧ pieces.Sublist path.cut.2 := by
  unfold below? at below
  dsimp only at below
  split at below
  · split at below
    · exact ⟨_, _, (Option.some.inj below).symm, trimEnd_sublist _⟩
    · exact ⟨_, _, (Option.some.inj below).symm,
        (trim_sublist _).trans (dropSegments_sublist _ _)⟩
  · cases below

theorem mem_of_mem_part {root file : Path} (h : byte ∈ (part root file).bytes) :
    byte = slash ∨ byte = dot ∨ byte ∈ file.bytes := by
  unfold part at h
  cases below : below? root file with
  | none =>
    rw [below] at h
    exact .inr (.inr h)
  | some part =>
    rw [below] at h
    obtain ⟨anchor, pieces, rfl, kept⟩ := exists_spelled_of_below? below
    exact (mem_spell h).imp_right (.imp_right fun ⟨piece, stays, inside⟩ =>
      mem_of_mem_cut (kept.subset stays) inside)

theorem mem_of_mem_join {directory path : Path} (h : byte ∈ (directory.join path).bytes) :
    byte = slash ∨ byte ∈ directory.bytes ∨ byte ∈ path.bytes := by
  unfold join at h
  split at h
  · exact .inr (.inr h)
  · split at h
    · exact .inr (List.mem_append.mp h)
    · rcases List.mem_append.mp h with first | later
      · exact .inr (.inl first)
      · rcases List.mem_cons.mp later with mark | second
        · exact .inl mark
        · exact .inr (.inr second)

variable {path : Path}

theorem isText_iff : path.IsText ↔ Text.IsUtf8 path.bytes := Text.isUtf8_iff.symm

@[simp] theorem text_mk (text : String) : (mk text).text = text := Text.decodeLossy_encode text

@[simp] theorem isText_mk (text : String) : (mk text).IsText := by
  rw [IsText, text_mk]

theorem mk_inj {text other : String} : mk text = mk other ↔ text = other := by
  rw [ofBytes.injEq, Text.encode_inj]

theorem IsText.mk_text (whole : path.IsText) : mk path.text = path := congrArg ofBytes whole

theorem IsText.text_inj {other : Path} (whole : path.IsText) (whole' : other.IsText) :
    path.text = other.text ↔ path = other := by
  rw [← mk_inj, whole.mk_text, whole'.mk_text]

theorem toList_text (path : Path) : path.text.toList = Text.decodeFrom none path.bytes :=
  String.toList_ofList

theorem text_eq_empty_iff : path.text = "" ↔ path.bytes = [] := by
  rw [← String.toList_eq_nil_iff, toList_text]
  constructor
  · exact Text.decodeFrom_eq_nil
  · intro none
    rw [none]
    rfl

theorem isAbsolute_iff_text : path.isAbsolute = true ↔ path.text.toList.head? = some '/' := by
  rw [isAbsolute, decide_eq_true_eq, toList_text]
  exact (@Text.head?_decodeFrom '/' (by decide) (by decide) _).symm

theorem getLast?_text :
    path.text.toList.getLast? = some '/' ↔ path.bytes.getLast? = some slash := by
  rw [toList_text]
  exact @Text.getLast?_decodeFrom '/' (by decide) (by decide) _

theorem toList_join_slash (before after : List UInt8) :
    (ofBytes (before ++ slash :: after)).text.toList =
      (ofBytes before).text.toList ++ '/' :: (ofBytes after).text.toList := by
  rw [toList_text, toList_text, toList_text]
  exact @Text.decodeFrom_append_ascii '/' (by decide) _ Text.sound_none before after

variable {directory : Path}

theorem toList_join_of_last (relative : path.isAbsolute = false)
    (closed : directory.text.toList.getLast? = some '/') :
    (directory.join path).text.toList = directory.text.toList ++ path.text.toList := by
  have closed := getLast?_text.mp closed
  obtain ⟨before, whole⟩ := List.getLast?_eq_some_iff.mp closed
  have spelled : directory = ofBytes (before ++ [slash]) := congrArg ofBytes whole
  have bare : (ofBytes []).text.toList = [] := rfl
  rw [join_eq_of_last relative closed, whole, List.append_assoc, List.singleton_append,
    toList_join_slash, spelled, toList_join_slash, bare, List.append_assoc, List.singleton_append]

theorem toList_join_of_open (relative : path.isAbsolute = false)
    (filled : directory.text ≠ "") (unclosed : directory.text.toList.getLast? ≠ some '/') :
    (directory.join path).text.toList = directory.text.toList ++ '/' :: path.text.toList := by
  rw [join_eq_of_open relative (mt text_eq_empty_iff.mpr filled) (mt getLast?_text.mpr unclosed),
    toList_join_slash]

theorem isText_spell {anchor : Anchor} {pieces : List (List UInt8)}
    (each : ∀ piece ∈ pieces, Text.IsUtf8 piece) : (spell anchor pieces).IsText := by
  have small : '/'.toNat < 0x80 := by decide
  have single : Text.IsUtf8 [slash] := ⟨['/'], rfl⟩
  rw [isText_iff]
  cases anchor with
  | root => exact single.append (Text.isUtf8_joinWith small each)
  | here =>
    exact Text.isUtf8_joinWith small (List.forall_mem_cons.mpr ⟨⟨['.'], rfl⟩, each⟩)
  | unwritten => exact Text.isUtf8_joinWith small each

theorem isText_part {root file : Path} (whole : file.IsText) : (part root file).IsText := by
  unfold part
  cases below : below? root file with
  | none => exact whole
  | some part =>
    obtain ⟨anchor, pieces, rfl, kept⟩ := exists_spelled_of_below? below
    have small : '/'.toNat < 0x80 := by decide
    exact isText_spell fun piece inside => (isText_iff.mp whole).of_mem_pieces small
      (mem_pieces_of_mem_cut (kept.subset inside))

theorem isText_join (whole : directory.IsText) (text : path.IsText) :
    (directory.join path).IsText := by
  have single : Text.IsUtf8 [slash] := ⟨['/'], rfl⟩
  rw [isText_iff] at whole
  unfold join
  split
  · exact text
  · rw [isText_iff] at text ⊢
    split
    · exact whole.append text
    · exact whole.append (single.append text)

/-- A path that a line can name. -/
def IsLine (path : Path) : Prop := path.IsText ∧ '\n' ∉ path.text.toList

instance (path : Path) : Decidable path.IsLine := inferInstanceAs (Decidable (_ ∧ _))

theorem isLine_mk {text : String} : (mk text).IsLine ↔ '\n' ∉ text.toList := by
  rw [IsLine, text_mk, and_iff_right (isText_mk text)]

abbrev newline : UInt8 := 0x0A

theorem isLine_iff : path.IsLine ↔ path.IsText ∧ newline ∉ path.bytes := by
  have lines := not_congr (@Text.mem_decodeFrom '\n' (by decide) (by decide) path.bytes)
  rw [IsLine, toList_text]
  exact and_congr_right fun _ => lines

theorem isLine_part {root file : Path} (line : file.IsLine) : (part root file).IsLine := by
  rw [isLine_iff] at line ⊢
  refine ⟨isText_part line.1, fun broken => ?_⟩
  rcases mem_of_mem_part broken with mark | mark | inside
  · exact absurd mark (by decide)
  · exact absurd mark (by decide)
  · exact line.2 inside

theorem isLine_join (whole : directory.IsLine) (line : path.IsLine) :
    (directory.join path).IsLine := by
  rw [isLine_iff] at whole line ⊢
  refine ⟨isText_join whole.1 line.1, fun broken => ?_⟩
  rcases mem_of_mem_join broken with mark | inside | inside
  · exact absurd mark (by decide)
  · exact whole.2 inside
  · exact line.2 inside

end CallAtlas.Path
