import CallAtlas.Proofs.Path

set_option autoImplicit false
set_option relaxedAutoImplicit false

/-!
Segments of paths that are put together.  A path below a directory has the segments of the directory
and then those of its part, so the part joined to the directory is the path again, whatever its
spelling.
-/

namespace CallAtlas.Path

/-- A path starts with the segments of a directory. -/
def Under (directory path : Path) : Prop := directory.segments <+: path.segments

instance (directory path : Path) : Decidable (directory.Under path) :=
  inferInstanceAs (Decidable (_ <+: _))

def segmentsOf (pieces : List (List UInt8)) : List Segment := pieces.filterMap segmentOf?

theorem segmentOf?_eq_none_iff {piece : List UInt8} : segmentOf? piece = none ↔ isIdle piece := by
  unfold segmentOf?
  split
  · rename_i idle
    simp [idle]
  · rename_i busy
    split <;> simp [busy]

theorem exists_segmentOf? {piece : List UInt8} (busy : ¬isIdle piece) :
    ∃ segment, segmentOf? piece = some segment :=
  Option.ne_none_iff_exists'.mp (mt segmentOf?_eq_none_iff.mp busy)

theorem eq_of_segmentOf?_eq {piece other : List UInt8} (busy : ¬isIdle piece)
    (busy' : ¬isIdle other) (same : segmentOf? piece = segmentOf? other) : piece = other := by
  unfold segmentOf? at same
  rw [if_neg busy, if_neg busy'] at same
  split at same <;> split at same
  · simp_all
  · cases same
  · cases same
  · injection same with same
    injection same with same

theorem two_le_rank {piece : List UInt8} {segment : Segment}
    (found : segmentOf? piece = some segment) : 2 ≤ segment.rank := by
  unfold segmentOf? at found
  split at found
  · cases found
  · split at found
    · rw [← Option.some.inj found]
      decide
    · rw [← Option.some.inj found]
      exact Nat.le_succ _

theorem segmentsOf_cons_of_idle {piece : List UInt8} (idle : isIdle piece = true)
    (rest : List (List UInt8)) : segmentsOf (piece :: rest) = segmentsOf rest :=
  List.filterMap_cons_none (segmentOf?_eq_none_iff.mpr idle)

theorem segmentsOf_append (pieces others : List (List UInt8)) :
    segmentsOf (pieces ++ others) = segmentsOf pieces ++ segmentsOf others :=
  List.filterMap_append

theorem segmentsOf_dropWhile (pieces : List (List UInt8)) :
    segmentsOf (pieces.dropWhile isIdle) = segmentsOf pieces := by
  induction pieces with
  | nil => rfl
  | cons piece rest ih =>
    rw [List.dropWhile_cons]
    split
    · rename_i idle
      rw [ih, segmentsOf_cons_of_idle idle]
    · rfl

theorem segmentsOf_trimEnd (pieces : List (List UInt8)) :
    segmentsOf (trimEnd pieces) = segmentsOf pieces := by
  have reversed := segmentsOf_dropWhile pieces.reverse
  rw [segmentsOf, segmentsOf, List.filterMap_reverse] at reversed
  rw [trimEnd, segmentsOf, List.filterMap_reverse, reversed, List.reverse_reverse, segmentsOf]

theorem segmentsOf_trim (pieces : List (List UInt8)) :
    segmentsOf (trim pieces) = segmentsOf pieces := by
  rw [trim, segmentsOf_trimEnd, segmentsOf_dropWhile]

theorem segmentsOf_dropSegments (count : Nat) (pieces : List (List UInt8)) :
    segmentsOf (dropSegments count pieces) = (segmentsOf pieces).drop count := by
  induction pieces generalizing count with
  | nil => cases count <;> rfl
  | cons piece rest ih =>
    cases count with
    | zero => rfl
    | succ count =>
      rw [dropSegments]
      split
      · rename_i idle
        rw [ih, segmentsOf_cons_of_idle idle]
      · rename_i busy
        obtain ⟨segment, found⟩ := exists_segmentOf? busy
        rw [ih, segmentsOf, segmentsOf, List.filterMap_cons_some found, List.drop_succ_cons]

/-- Pieces whose first one is not idle, if there is a first one. -/
def Busy (pieces : List (List UInt8)) : Prop := ∀ piece, pieces.head? = some piece → ¬isIdle piece

theorem busy_trimEnd {pieces : List (List UInt8)} (busy : Busy pieces) : Busy (trimEnd pieces) := by
  intro piece first
  apply busy
  have front : trimEnd pieces <+: pieces := by
    have suffixed := List.dropWhile_suffix (l := pieces.reverse) isIdle
    rwa [← List.reverse_prefix, List.reverse_reverse] at suffixed
  obtain ⟨rest, whole⟩ := front
  rw [← whole, List.head?_append, first]
  rfl

theorem busy_dropWhile (pieces : List (List UInt8)) : Busy (pieces.dropWhile isIdle) := by
  intro piece first
  have kept := List.head?_dropWhile_not isIdle pieces
  rw [first] at kept
  simpa using kept

theorem busy_trim (pieces : List (List UInt8)) : Busy (trim pieces) :=
  busy_trimEnd (busy_dropWhile pieces)

/-! Cutting. -/

theorem cut_cases (path : Path) :
    Text.pieces slash path.bytes = [[]] ∧ path.cut = (.unwritten, []) ∨
      (∃ piece rest, Text.pieces slash path.bytes = [] :: piece :: rest ∧
        path.cut = (.root, piece :: rest)) ∨
      (∃ rest, Text.pieces slash path.bytes = [dot] :: rest ∧ path.cut = (.here, rest)) ∨
      Busy (Text.pieces slash path.bytes) ∧
        path.cut = (.unwritten, Text.pieces slash path.bytes) := by
  unfold cut
  split
  · rename_i none
    exact absurd none (Text.pieces_ne_nil _ _)
  · rename_i bare
    exact .inl ⟨bare, rfl⟩
  · rename_i rest filled equal
    obtain ⟨piece, others, rfl⟩ := List.exists_cons_of_ne_nil filled
    exact .inr (.inl ⟨piece, others, equal, rfl⟩)
  · rename_i rest equal
    exact .inr (.inr (.inl ⟨rest, equal, rfl⟩))
  · rename_i notRoot notHere
    refine .inr (.inr (.inr ⟨?_, rfl⟩))
    intro piece first idle
    obtain ⟨rest, equal⟩ := List.head?_eq_some_iff.mp first
    rw [isIdle, Bool.or_eq_true, decide_eq_true_eq, decide_eq_true_eq] at idle
    rcases idle with rfl | rfl
    · exact notRoot rest equal
    · exact notHere rest equal

theorem slash_notMem_of_mem_cut {path : Path} {piece : List UInt8} (h : piece ∈ path.cut.2) :
    slash ∉ piece := Text.notMem_of_mem_pieces (mem_pieces_of_mem_cut h)

theorem busy_cut {path : Path} (unwritten : path.cut.1 = .unwritten) : Busy path.cut.2 := by
  rcases cut_cases path with ⟨-, cut⟩ | ⟨piece, rest, -, cut⟩ | ⟨rest, -, cut⟩ | ⟨busy, cut⟩
  · rw [cut]
    intro piece first
    cases first
  · rw [cut] at unwritten
    cases unwritten
  · rw [cut] at unwritten
    cases unwritten
  · rw [cut]
    exact busy

theorem segments_eq (path : Path) :
    path.segments = path.cut.1.segments ++ segmentsOf path.cut.2 := rfl

def leading (piece : List UInt8) : List Segment :=
  if piece = [] then [.root] else if piece = [dot] then [.here] else segmentsOf [piece]

theorem leading_of_busy {piece : List UInt8} (busy : ¬isIdle piece) :
    leading piece = segmentsOf [piece] := by
  rw [isIdle, Bool.or_eq_true, not_or, decide_eq_true_eq, decide_eq_true_eq] at busy
  rw [leading, if_neg busy.1, if_neg busy.2]

theorem segments_of_pieces {path : Path} {head : List UInt8} {rest : List (List UInt8)}
    (equal : Text.pieces slash path.bytes = head :: rest) (filled : head = [] → rest ≠ []) :
    path.segments = leading head ++ segmentsOf rest := by
  rcases cut_cases path with ⟨bare, -⟩ | ⟨piece, others, root, cut⟩ | ⟨others, here, cut⟩ |
    ⟨busy, cut⟩
  · obtain ⟨rfl, rfl⟩ := List.cons.inj (equal.symm.trans bare)
    exact absurd rfl (filled rfl)
  · obtain ⟨rfl, rfl⟩ := List.cons.inj (equal.symm.trans root)
    rw [segments_eq, cut]
    rfl
  · obtain ⟨rfl, rfl⟩ := List.cons.inj (equal.symm.trans here)
    rw [segments_eq, cut]
    rfl
  · rw [equal] at busy cut
    rw [segments_eq, cut, leading_of_busy (busy head rfl), ← segmentsOf_append]
    rfl

theorem leading_ne_nil (piece : List UInt8) : leading piece ≠ [] := by
  by_cases idle : isIdle piece = true
  · rw [isIdle, Bool.or_eq_true, decide_eq_true_eq, decide_eq_true_eq] at idle
    rcases idle with rfl | rfl
    · exact List.cons_ne_nil _ _
    · exact List.cons_ne_nil _ _
  · intro none
    rw [leading_of_busy idle, segmentsOf, List.filterMap_eq_nil_iff] at none
    exact idle (segmentOf?_eq_none_iff.mp (none piece List.mem_cons_self))

theorem exists_pieces {path : Path} (some : path.bytes ≠ []) :
    ∃ head rest, Text.pieces slash path.bytes = head :: rest ∧ (head = [] → rest ≠ []) := by
  obtain ⟨head, rest, equal⟩ := List.exists_cons_of_ne_nil (Text.pieces_ne_nil slash path.bytes)
  refine ⟨head, rest, equal, ?_⟩
  rintro rfl rfl
  apply some
  rw [← Text.joinWith_pieces slash path.bytes, equal]
  rfl

theorem segments_eq_nil_iff {path : Path} : path.segments = [] ↔ path.bytes = [] := by
  constructor
  · intro none
    apply Decidable.byContradiction
    intro some
    obtain ⟨head, rest, equal, filled⟩ := exists_pieces some
    rw [segments_of_pieces equal filled, List.append_eq_nil_iff] at none
    exact leading_ne_nil head none.1
  · intro none
    rw [segments, cut, none]
    rfl

theorem segments_append_slash (before after : List UInt8) :
    (ofBytes (before ++ slash :: after)).segments =
      (ofBytes (before ++ [slash])).segments ++ segmentsOf (Text.pieces slash after) := by
  obtain ⟨head, rest, pieces⟩ := List.exists_cons_of_ne_nil (Text.pieces_ne_nil slash before)
  have whole (tail : List UInt8) : Text.pieces slash (ofBytes (before ++ slash :: tail)).bytes =
      head :: (rest ++ Text.pieces slash tail) := by
    rw [Text.pieces_append_cons, pieces, List.cons_append]
  have filled (tail : List UInt8) : rest ++ Text.pieces slash tail ≠ [] :=
    List.append_ne_nil_of_right_ne_nil _ (Text.pieces_ne_nil _ _)
  have bare : segmentsOf (Text.pieces slash []) = [] := rfl
  rw [segments_of_pieces (whole after) fun _ => filled after,
    segments_of_pieces (whole []) fun _ => filled [], segmentsOf_append, segmentsOf_append, bare,
    List.append_nil, List.append_assoc]

theorem segments_slash {path : Path} (some : path.bytes ≠ []) :
    (ofBytes (path.bytes ++ [slash])).segments = path.segments := by
  obtain ⟨head, rest, equal, filled⟩ := exists_pieces some
  have whole : Text.pieces slash (ofBytes (path.bytes ++ [slash])).bytes =
      head :: (rest ++ [[]]) := by
    rw [Text.pieces_append_cons, equal]
    rfl
  have bare : segmentsOf [[]] = [] := rfl
  rw [segments_of_pieces whole (by simp), segments_of_pieces equal filled, segmentsOf_append, bare,
    List.append_nil]

/-- A path taken from a directory has the segments of the directory and then its own. -/
theorem segments_join {directory path : Path} (relative : path.isAbsolute = false)
    (some : directory.bytes ≠ []) :
    (directory.join path).segments =
      directory.segments ++ segmentsOf (Text.pieces slash path.bytes) := by
  by_cases closed : directory.bytes.getLast? = Option.some slash
  · obtain ⟨before, whole⟩ := List.getLast?_eq_some_iff.mp closed
    have same : directory = ⟨before ++ [slash]⟩ := by rw [← whole]
    rw [join_eq_of_last relative closed, whole, List.append_assoc, List.singleton_append,
      segments_append_slash, ← same]
  · rw [join_eq_of_open relative some closed, segments_append_slash, segments_slash some]

/-! Spelling pieces. -/

theorem segmentsOf_pieces_joinWith {pieces : List (List UInt8)}
    (plain : ∀ piece ∈ pieces, slash ∉ piece) :
    segmentsOf (Text.pieces slash (Text.joinWith slash pieces)) = segmentsOf pieces := by
  cases pieces with
  | nil => rfl
  | cons head rest => rw [Text.pieces_joinWith (List.cons_ne_nil _ _) plain]

theorem segments_spell {anchor : Anchor} {pieces : List (List UInt8)}
    (plain : ∀ piece ∈ pieces, slash ∉ piece) (busy : anchor = .unwritten → Busy pieces) :
    (spell anchor pieces).segments = anchor.segments ++ segmentsOf pieces := by
  cases anchor with
  | root =>
    have whole : Text.pieces slash (spell .root pieces).bytes =
        [] :: Text.pieces slash (Text.joinWith slash pieces) := by
      rw [spell, Text.pieces, if_pos rfl]
    rw [segments_of_pieces whole fun _ => Text.pieces_ne_nil _ _, segmentsOf_pieces_joinWith plain]
    rfl
  | here =>
    have plain' : ∀ piece ∈ [dot] :: pieces, slash ∉ piece :=
      List.forall_mem_cons.mpr ⟨by decide, plain⟩
    have whole : Text.pieces slash (spell .here pieces).bytes = [dot] :: pieces := by
      rw [spell, Text.pieces_joinWith (List.cons_ne_nil _ _) plain']
    rw [segments_of_pieces whole fun none => absurd none (List.cons_ne_nil _ _)]
    rfl
  | unwritten =>
    cases pieces with
    | nil => rfl
    | cons head rest =>
      have first := busy rfl head rfl
      have whole : Text.pieces slash (spell .unwritten (head :: rest)).bytes = head :: rest := by
        rw [spell, Text.pieces_joinWith (List.cons_ne_nil _ _) plain]
      have filled : head = [] → rest ≠ [] := fun none => absurd (none ▸ rfl) first
      rw [segments_of_pieces whole filled, leading_of_busy first, ← segmentsOf_append]
      rfl

theorem isAbsolute_spell_unwritten {pieces : List (List UInt8)}
    (plain : ∀ piece ∈ pieces, slash ∉ piece) (busy : Busy pieces) :
    (spell .unwritten pieces).isAbsolute = false := by
  rw [isAbsolute, spell, decide_eq_false_iff_not]
  cases pieces with
  | nil => simp [Text.joinWith]
  | cons head rest =>
    cases head with
    | nil => exact absurd rfl (busy [] rfl)
    | cons c others =>
      have apart : c ≠ slash := fun same => plain _ List.mem_cons_self (same ▸ List.mem_cons_self)
      cases rest <;> simpa [Text.joinWith] using apart

/-! The part below a directory, put back. -/

theorem length_segments_le (anchor : Anchor) : anchor.segments.length ≤ 1 := by
  cases anchor <;> decide

theorem join_of_empty {directory path : Path} (none : directory.bytes = []) :
    directory.join path = path := by
  unfold join
  split
  · rfl
  · rw [if_pos (.inl none), none, List.nil_append]

theorem join_below? {directory path part : Path} (below : below? directory path = some part) :
    (directory.join part).Same path := by
  have plain (pieces : List (List UInt8)) (kept : pieces.Sublist path.cut.2) :
      ∀ piece ∈ pieces, slash ∉ piece :=
    fun piece inside => slash_notMem_of_mem_cut (kept.subset inside)
  unfold below? at below
  dsimp only at below
  split at below
  · rename_i prefixed
    obtain ⟨rest, whole⟩ := List.isPrefixOf_iff_prefix.mp prefixed
    split at below
    · rename_i empty
      have none := segments_eq_nil_iff.mp (List.isEmpty_iff.mp empty)
      obtain rfl := Option.some.inj below
      rw [join_of_empty none, Same, segments_spell (plain _ (trimEnd_sublist _))
        fun unwritten => busy_trimEnd (busy_cut unwritten), segmentsOf_trimEnd, segments_eq]
    · rename_i filled
      have filled : directory.segments ≠ [] := mt List.isEmpty_iff.mpr filled
      have kept := (trim_sublist _).trans
        (dropSegments_sublist (directory.segments.length - path.cut.1.segments.length) path.cut.2)
      obtain rfl := Option.some.inj below
      rw [Same, segments_join (isAbsolute_spell_unwritten (plain _ kept) (busy_trim _))
        (mt segments_eq_nil_iff.mpr filled), spell, segmentsOf_pieces_joinWith (plain _ kept),
        segmentsOf_trim, segmentsOf_dropSegments]
      have anchored : path.cut.1.segments.length ≤ directory.segments.length :=
        Nat.le_trans (length_segments_le path.cut.1) (List.length_pos_iff.mpr filled)
      have dropped : (segmentsOf path.cut.2).drop
          (directory.segments.length - path.cut.1.segments.length) = rest := by
        have both := congrArg (List.drop directory.segments.length) (whole.trans (segments_eq path))
        rw [List.drop_left, List.drop_append, List.drop_of_length_le anchored,
          List.nil_append] at both
        exact both.symm
      rw [dropped, whole]
  · cases below

theorem not_under_of_below? {directory path : Path} (none : below? directory path = none) :
    ¬directory.Under path := by
  intro under
  rw [below?, if_pos (List.isPrefixOf_iff_prefix.mpr under)] at none
  dsimp only at none
  split at none <;> cases none

/-- The part of a file below the root, or of an absolute one, leads back to it. -/
theorem join_part {root file : Path} (reached : root.Under file ∨ file.isAbsolute) :
    (root.join (part root file)).Same file := by
  rw [part]
  cases below : below? root file with
  | some part => exact join_below? below
  | none =>
    have absolute := reached.resolve_left (not_under_of_below? below)
    rw [Option.getD_none, join, if_pos absolute]
    exact Same.refl file

theorem same_of_part_eq {root file other : Path} (reached : root.Under file ∨ file.isAbsolute)
    (reached' : root.Under other ∨ other.isAbsolute) (same : part root file = part root other) :
    file.Same other := by
  have back := join_part reached
  rw [same] at back
  exact back.symm.trans (join_part reached')

/-- The segments of a path behind its anchor. -/
def trail (path : Path) : List Segment := segmentsOf (Text.pieces slash path.bytes)

theorem trail_eq_cut (path : Path) : path.trail = segmentsOf path.cut.2 := by
  rw [trail]
  rcases cut_cases path with ⟨bare, cut⟩ | ⟨piece, rest, root, cut⟩ | ⟨rest, here, cut⟩ | ⟨-, cut⟩
  · rw [bare, cut]
    rfl
  · rw [root, cut, segmentsOf_cons_of_idle rfl]
  · rw [here, cut, segmentsOf_cons_of_idle rfl]
  · rw [cut]

theorem filter_segments (path : Path) :
    (path.segments.filter fun segment => 2 ≤ segment.rank) = path.trail := by
  have anchor : (path.cut.1.segments.filter fun segment => 2 ≤ segment.rank) = [] := by
    cases path.cut.1 <;> decide
  rw [segments_eq, List.filter_append, anchor, List.nil_append, ← trail_eq_cut,
    List.filter_eq_self]
  intro segment inside
  obtain ⟨piece, -, found⟩ := List.mem_filterMap.mp inside
  exact decide_eq_true (two_le_rank found)

theorem Same.trail_eq {path other : Path} (same : path.Same other) : path.trail = other.trail := by
  rw [← filter_segments, ← filter_segments, same]

theorem trail_join (directory path : Path) :
    (directory.join path).trail =
      if path.isAbsolute then path.trail else directory.trail ++ path.trail := by
  have idle : segmentsOf (Text.pieces slash []) = [] := rfl
  unfold join
  split
  · rfl
  · split
    · rename_i closed
      rcases closed with none | closed
      · rw [trail, trail, trail, none, idle]
        rfl
      · obtain ⟨before, whole⟩ := List.getLast?_eq_some_iff.mp closed
        rw [trail, trail, trail, whole, List.append_assoc, List.singleton_append,
          Text.pieces_append_cons, Text.pieces_append_cons, segmentsOf_append, segmentsOf_append,
          idle, List.append_nil]
    · rw [trail, trail, trail, Text.pieces_append_cons, segmentsOf_append]

end CallAtlas.Path
