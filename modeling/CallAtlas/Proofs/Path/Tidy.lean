import CallAtlas.Proofs.Path.Ending

set_option autoImplicit false
set_option relaxedAutoImplicit false

/-!
Tidy spellings.  A path has one spelling without idle pieces, and under an absolute root two files
are the same exactly if their parts below it have the same one.  A part keeps the idle pieces of its
file, so spellings of one file surely share a label only where they are tidy themselves.
-/

namespace CallAtlas.Path

def busyPieces (path : Path) : List (List UInt8) :=
  (Text.pieces slash path.bytes).filter fun piece => !isIdle piece

def tidyAnchor (path : Path) : Anchor := if path.isAbsolute then .root else .unwritten

/-- The spelling of a path without idle pieces, also without a leading `.`. -/
def tidy (path : Path) : Path := spell path.tidyAnchor path.busyPieces

theorem segmentsOf_filter (pieces : List (List UInt8)) :
    segmentsOf (pieces.filter fun piece => !isIdle piece) = segmentsOf pieces := by
  rw [segmentsOf, List.filterMap_filter, segmentsOf]
  congr 1
  funext piece
  cases idle : isIdle piece with
  | true => simp [segmentOf?_eq_none_iff.mpr idle]
  | false => simp

theorem eq_of_segmentsOf_eq {pieces others : List (List UInt8)}
    (busy : ∀ piece ∈ pieces, ¬isIdle piece) (busy' : ∀ piece ∈ others, ¬isIdle piece)
    (same : segmentsOf pieces = segmentsOf others) : pieces = others := by
  induction pieces generalizing others with
  | nil =>
    cases others with
    | nil => rfl
    | cons other rest =>
      obtain ⟨segment, found⟩ := exists_segmentOf? (busy' other List.mem_cons_self)
      rw [segmentsOf, segmentsOf, List.filterMap_cons_some found] at same
      cases same
  | cons piece rest ih =>
    obtain ⟨first, found⟩ := exists_segmentOf? (busy piece List.mem_cons_self)
    cases others with
    | nil =>
      rw [segmentsOf, List.filterMap_cons_some found] at same
      cases same
    | cons other others =>
      obtain ⟨second, found'⟩ := exists_segmentOf? (busy' other List.mem_cons_self)
      rw [segmentsOf, segmentsOf, List.filterMap_cons_some found,
        List.filterMap_cons_some found'] at same
      obtain ⟨rfl, tails⟩ := List.cons.inj same
      have heads : piece = other :=
        eq_of_segmentOf?_eq (busy piece List.mem_cons_self) (busy' other List.mem_cons_self)
          (found.trans found'.symm)
      rw [heads, ih (fun piece inside => busy piece (List.mem_cons_of_mem _ inside))
        (fun piece inside => busy' piece (List.mem_cons_of_mem _ inside)) tails]

variable {path other : Path}

theorem exists_pieces_of_isAbsolute (absolute : path.isAbsolute = true) :
    ∃ rest, rest ≠ [] ∧ Text.pieces slash path.bytes = [] :: rest := by
  rw [isAbsolute, decide_eq_true_eq, List.head?_eq_some_iff] at absolute
  obtain ⟨text, spelled⟩ := absolute
  refine ⟨Text.pieces slash text, Text.pieces_ne_nil _ _, ?_⟩
  rw [spelled, Text.pieces, if_pos rfl]

theorem segments_of_isAbsolute (absolute : path.isAbsolute = true) :
    path.segments = .root :: path.trail := by
  obtain ⟨rest, filled, pieces⟩ := exists_pieces_of_isAbsolute absolute
  rw [segments_of_pieces pieces fun _ => filled, trail, pieces, segmentsOf_cons_of_idle rfl]
  rfl

theorem isAbsolute_iff : path.isAbsolute = true ↔ path.segments.head? = some .root := by
  constructor
  · intro absolute
    rw [segments_of_isAbsolute absolute]
    rfl
  · intro first
    have busy {pieces : List (List UInt8)} : (segmentsOf pieces).head? ≠ some .root := by
      intro first
      obtain ⟨piece, -, found⟩ := List.mem_filterMap.mp (List.mem_of_head? first)
      exact absurd (two_le_rank found) (by decide)
    rcases cut_cases path with ⟨-, cut⟩ | ⟨piece, rest, pieces, -⟩ | ⟨rest, -, cut⟩ | ⟨-, cut⟩
    · rw [segments_eq, cut] at first
      cases first
    · have spelled := Text.joinWith_pieces slash path.bytes
      rw [pieces] at spelled
      rw [isAbsolute, ← spelled]
      rfl
    · rw [segments_eq, cut] at first
      cases first
    · rw [segments_eq, cut] at first
      exact absurd first busy

theorem isAbsolute_of_under {directory : Path} (absolute : directory.isAbsolute = true)
    (under : directory.Under path) : path.isAbsolute = true := by
  obtain ⟨rest, whole⟩ := under
  rw [isAbsolute_iff, ← whole, segments_of_isAbsolute absolute]
  rfl

/-! Tidying. -/

theorem trail_eq (path : Path) : path.trail = segmentsOf path.busyPieces :=
  (segmentsOf_filter _).symm

theorem not_isIdle_of_mem_busyPieces {piece : List UInt8} (inside : piece ∈ path.busyPieces) :
    ¬isIdle piece := by
  simpa using (List.mem_filter.mp inside).2

theorem slash_notMem_of_mem_busyPieces {piece : List UInt8} (inside : piece ∈ path.busyPieces) :
    slash ∉ piece := Text.notMem_of_mem_pieces (List.mem_filter.mp inside).1

theorem busy_of_forall {pieces : List (List UInt8)} (busy : ∀ piece ∈ pieces, ¬isIdle piece) :
    Busy pieces := fun piece first => busy piece (List.mem_of_head? first)

section Spelled

variable {pieces : List (List UInt8)} (busy : ∀ piece ∈ pieces, ¬isIdle piece)
  (plain : ∀ piece ∈ pieces, slash ∉ piece)

include busy plain

theorem tidyAnchor_spell {anchor : Anchor} (proper : anchor ≠ .here) :
    (spell anchor pieces).tidyAnchor = anchor := by
  cases anchor with
  | root => rw [tidyAnchor, if_pos (by simp [isAbsolute, spell])]
  | here => exact absurd rfl proper
  | unwritten =>
    rw [tidyAnchor, isAbsolute_spell_unwritten plain (busy_of_forall busy),
      if_neg Bool.false_ne_true]

theorem busyPieces_spell {anchor : Anchor} (proper : anchor ≠ .here) :
    (spell anchor pieces).busyPieces = pieces := by
  have kept : pieces.filter (fun piece => !isIdle piece) = pieces := by
    rw [List.filter_eq_self]
    intro piece inside
    simpa using busy piece inside
  have joined : (Text.pieces slash (Text.joinWith slash pieces)).filter (fun piece => !isIdle piece) =
      pieces := by
    cases pieces with
    | nil => rfl
    | cons piece rest => rw [Text.pieces_joinWith (List.cons_ne_nil _ _) plain, kept]
  cases anchor with
  | root =>
    rw [busyPieces, spell, Text.pieces, if_pos rfl,
      List.filter_cons_of_neg (by decide), joined]
  | here => exact absurd rfl proper
  | unwritten => rw [busyPieces, spell, joined]

theorem tidy_spell {anchor : Anchor} (proper : anchor ≠ .here) :
    (spell anchor pieces).tidy = spell anchor pieces := by
  rw [tidy, tidyAnchor_spell busy plain proper, busyPieces_spell busy plain proper]

end Spelled

theorem tidyAnchor_ne_here (path : Path) : path.tidyAnchor ≠ .here := by
  unfold tidyAnchor
  split <;> simp

theorem tidyAnchor_eq_iff :
    path.tidyAnchor = other.tidyAnchor ↔ path.isAbsolute = other.isAbsolute := by
  unfold tidyAnchor
  cases path.isAbsolute <;> cases other.isAbsolute <;> simp

/-- The tidy spelling is told by where the path starts and by its trail. -/
theorem tidy_eq_iff :
    path.tidy = other.tidy ↔ path.isAbsolute = other.isAbsolute ∧ path.trail = other.trail := by
  have busy (path : Path) : ∀ piece ∈ path.busyPieces, ¬isIdle piece :=
    fun piece => not_isIdle_of_mem_busyPieces
  have plain (path : Path) : ∀ piece ∈ path.busyPieces, slash ∉ piece :=
    fun piece => slash_notMem_of_mem_busyPieces
  constructor
  · intro same
    have anchors := congrArg tidyAnchor same
    have pieces := congrArg busyPieces same
    unfold tidy at anchors pieces
    rw [tidyAnchor_spell (busy _) (plain _) (tidyAnchor_ne_here _),
      tidyAnchor_spell (busy _) (plain _) (tidyAnchor_ne_here _)] at anchors
    rw [busyPieces_spell (busy _) (plain _) (tidyAnchor_ne_here _),
      busyPieces_spell (busy _) (plain _) (tidyAnchor_ne_here _)] at pieces
    exact ⟨tidyAnchor_eq_iff.mp anchors, by rw [trail_eq, trail_eq, pieces]⟩
  · rintro ⟨anchors, trails⟩
    rw [trail_eq, trail_eq] at trails
    rw [tidy, tidy, tidyAnchor_eq_iff.mpr anchors, eq_of_segmentsOf_eq (busy _) (busy _) trails]

variable {root file : Path}

theorem same_join_part (absolute : root.isAbsolute = true) :
    (root.join (part root file)).Same (root.join file) := by
  by_cases under : root.Under file
  · have here : root.join file = file := by
      rw [join, if_pos (isAbsolute_of_under absolute under)]
    rw [here]
    exact join_part (.inl under)
  · have none : below? root file = Option.none := by
      rw [below?, if_neg (mt List.isPrefixOf_iff_prefix.mp under)]
    rw [part, none]
    exact Same.refl _

theorem not_under_part (filled : root.segments ≠ [])
    (absolute : (part root file).isAbsolute = true) : ¬root.Under (part root file) := by
  rw [part] at absolute ⊢
  cases below : below? root file with
  | none => exact not_under_of_below? below
  | some part =>
    obtain ⟨pieces, rfl, plain⟩ := exists_trimmed_of_below? filled below
    rw [below] at absolute
    have relative := isAbsolute_spell_unwritten plain (busy_trim pieces)
    exact absurd (relative.symm.trans absolute) Bool.false_ne_true

/-- Paths that are outside of a directory, if they are absolute, lead to the same from there exactly
if they have one tidy spelling. -/
theorem same_join_iff {directory : Path} (filled : directory.bytes ≠ [])
    (outside : path.isAbsolute = true → ¬directory.Under path)
    (outside' : other.isAbsolute = true → ¬directory.Under other) :
    (directory.join path).Same (directory.join other) ↔ path.tidy = other.tidy := by
  have under {path : Path} (relative : path.isAbsolute = false) :
      directory.Under (directory.join path) := by
    rw [Under, segments_join relative filled]
    exact List.prefix_append _ _
  rw [tidy_eq_iff]
  cases absolute : path.isAbsolute <;> cases absolute' : other.isAbsolute
  · rw [Same, segments_join absolute filled, segments_join absolute' filled,
      List.append_cancel_left_eq]
    exact (and_iff_right rfl).symm
  · refine iff_of_false (fun same => outside' absolute' ?_) (by simp)
    have inside := under absolute
    rwa [Under, same, join, if_pos absolute'] at inside
  · refine iff_of_false (fun same => outside absolute ?_) (by simp)
    have inside := under absolute'
    rwa [Under, ← same, join, if_pos absolute] at inside
  · rw [Same, join, join, if_pos absolute, if_pos absolute', segments_of_isAbsolute absolute,
      segments_of_isAbsolute absolute', List.cons.injEq]
    simp

/-- Under an absolute root, two files are the same exactly if their parts have one tidy
spelling. -/
theorem same_join_iff_tidy_part {root file other : Path} (absolute : root.isAbsolute = true) :
    (root.join file).Same (root.join other) ↔
      (part root file).tidy = (part root other).tidy := by
  have filled := bytes_ne_nil_of_isAbsolute absolute
  have anchored : root.segments ≠ [] := mt segments_eq_nil_iff.mp filled
  rw [← same_join_iff filled (not_under_part anchored) (not_under_part anchored)]
  have back := @same_join_part root file absolute
  have back' := @same_join_part root other absolute
  exact ⟨fun same => (back.trans same).trans back'.symm,
    fun same => (back.symm.trans same).trans back'⟩

/-! Parts of tidy files. -/

theorem cut_root (bytes : List UInt8) :
    (ofBytes (slash :: bytes)).cut = (.root, Text.pieces slash bytes) := by
  obtain ⟨piece, rest, pieces⟩ := List.exists_cons_of_ne_nil (Text.pieces_ne_nil slash bytes)
  rw [cut, Text.pieces, if_pos rfl, pieces]

/-- The bare root is the one tidy path with an idle piece. -/
theorem busy_cut_of_tidy (spelled : file.tidy = file) :
    (∀ piece ∈ file.cut.2, ¬isIdle piece) ∨ file.cut.2 = [[]] := by
  have busy : ∀ piece ∈ file.busyPieces, ¬isIdle piece := fun piece => not_isIdle_of_mem_busyPieces
  have plain : ∀ piece ∈ file.busyPieces, slash ∉ piece :=
    fun piece => slash_notMem_of_mem_busyPieces
  unfold tidy at spelled
  generalize file.busyPieces = pieces at spelled busy plain
  cases anchored : file.tidyAnchor with
  | here => exact absurd anchored (tidyAnchor_ne_here file)
  | root =>
    rw [anchored, spell] at spelled
    rw [← spelled, cut_root]
    cases pieces with
    | nil => exact .inr rfl
    | cons piece rest =>
      rw [Text.pieces_joinWith (List.cons_ne_nil _ _) plain]
      exact .inl busy
  | unwritten =>
    rw [anchored, spell] at spelled
    refine .inl fun piece inside => ?_
    cases pieces with
    | nil =>
      rw [← spelled] at inside
      cases inside
    | cons first rest =>
      have member := mem_pieces_of_mem_cut inside
      rw [← spelled,
        Text.pieces_joinWith (List.cons_ne_nil _ _) plain] at member
      exact busy piece member

theorem not_isIdle_of_mem_trim (spelled : file.tidy = file) (count : Nat) :
    ∀ piece ∈ trim (dropSegments count file.cut.2), ¬isIdle piece := by
  intro piece inside
  rcases busy_cut_of_tidy spelled with busy | bare
  · exact busy piece (((trim_sublist _).trans (dropSegments_sublist _ _)).subset inside)
  · have gone : trim (dropSegments count [[]]) = [] := by
      cases count with
      | zero => rfl
      | succ count => rfl
    rw [bare, gone] at inside
    cases inside

theorem tidy_of_below? {directory part : Path} (filled : directory.segments ≠ [])
    (spelled : path.tidy = path) (below : below? directory path = some part) :
    part.tidy = part := by
  unfold below? at below
  dsimp only at below
  split at below
  · rw [if_neg (mt List.isEmpty_iff.mp filled)] at below
    generalize directory.segments.length - path.cut.1.segments.length = count at below
    have kept := (trim_sublist _).trans (dropSegments_sublist count path.cut.2)
    have plain : ∀ piece ∈ trim (dropSegments count path.cut.2), slash ∉ piece :=
      fun piece inside => slash_notMem_of_mem_cut (kept.subset inside)
    obtain rfl := Option.some.inj below
    exact tidy_spell (not_isIdle_of_mem_trim spelled count) plain (by decide)
  · cases below

theorem tidy_part (filled : root.segments ≠ []) (spelled : file.tidy = file) :
    (part root file).tidy = part root file := by
  rw [part]
  cases below : below? root file with
  | none => exact spelled
  | some part => exact tidy_of_below? filled spelled below

theorem segments_of_tidy (spelled : path.tidy = path) (relative : path.isAbsolute = false) :
    path.segments = path.trail := by
  have busy : ∀ piece ∈ path.busyPieces, ¬isIdle piece := fun piece => not_isIdle_of_mem_busyPieces
  have plain : ∀ piece ∈ path.busyPieces, slash ∉ piece :=
    fun piece => slash_notMem_of_mem_busyPieces
  have anchored : path.tidyAnchor = .unwritten := by rw [tidyAnchor, relative]; rfl
  rw [trail_eq, ← spelled, tidy, anchored, segments_spell plain fun _ => busy_of_forall busy,
    busyPieces_spell busy plain (by decide)]
  rfl

theorem eq_of_same_of_tidy (spelled : path.tidy = path) (spelled' : other.tidy = other)
    (same : path.Same other) : path = other := by
  have anchors : path.isAbsolute = other.isAbsolute := by
    rw [Bool.eq_iff_iff, isAbsolute_iff, isAbsolute_iff, same]
  rw [← spelled, ← spelled', tidy_eq_iff]
  refine ⟨anchors, ?_⟩
  cases absolute : path.isAbsolute with
  | true =>
    rw [Same, segments_of_isAbsolute absolute,
      segments_of_isAbsolute (anchors.symm.trans absolute)] at same
    exact (List.cons.inj same).2
  | false =>
    rwa [Same, segments_of_tidy spelled absolute,
      segments_of_tidy spelled' (anchors.symm.trans absolute)] at same

theorem eq_of_same_join_of_tidy {directory : Path} (relative : directory.isAbsolute = false)
    (spelled : path.tidy = path) (spelled' : other.tidy = other)
    (same : (directory.join path).Same (directory.join other)) : path = other := by
  by_cases filled : directory.bytes = []
  · rw [join_of_empty filled, join_of_empty filled] at same
    exact eq_of_same_of_tidy spelled spelled' same
  · have anchored : directory.segments ≠ [] := mt segments_eq_nil_iff.mp filled
    have outside {path : Path} (absolute : path.isAbsolute = true) : ¬directory.Under path := by
      rintro ⟨rest, whole⟩
      rw [isAbsolute_iff, ← whole, List.head?_append_of_ne_nil _ anchored, ← isAbsolute_iff,
        relative] at absolute
      cases absolute
    rw [← spelled, ← spelled']
    exact (same_join_iff filled outside outside).mp same

end CallAtlas.Path

namespace CallAtlas.Inventory

/-- Tidy spellings of one file share their label.  Under an absolute root two files are the same
exactly if their parts below the root have one tidy spelling, and so do their labels where the parts
are texts.  So if all files of the hits are tidily spelled and their parts are texts, the row of a
file counts the occurrences in this file and in no other. -/
theorem rows_of_tidy_files (root : Path) :
    (∀ file other : Path, file.tidy = file → other.tidy = other →
      (root.join file).Same (root.join other) → Path.label root file = Path.label root other) ∧
    (root.isAbsolute = true →
      (∀ file other : Path, (root.join file).Same (root.join other) ↔
        (Path.part root file).tidy = (Path.part root other).tidy) ∧
      (∀ file other : Path, (Path.part root file).IsText → (Path.part root other).IsText →
        ((root.join file).Same (root.join other) ↔
          (Path.mk (Path.label root file)).tidy = (Path.mk (Path.label root other)).tidy)) ∧
      ∀ hits : Hits, (∀ file ∈ hits.paths, file.tidy = file) →
        (∀ file ∈ hits.paths, (Path.part root file).IsText) → ∀ file ∈ hits.paths,
          (ofHits root hits).count (Path.label root file) =
            hits.occurrences.countP fun o => (root.join o.file).Same (root.join file)) := by
  have parts (absolute : root.isAbsolute = true) (file other : Path) (spelled : file.tidy = file)
      (spelled' : other.tidy = other) :
      (root.join file).Same (root.join other) ↔ Path.part root file = Path.part root other := by
    have anchored : root.segments ≠ [] :=
      mt Path.segments_eq_nil_iff.mp (Path.bytes_ne_nil_of_isAbsolute absolute)
    rw [Path.same_join_iff_tidy_part absolute, Path.tidy_part anchored spelled,
      Path.tidy_part anchored spelled']
  refine ⟨fun file other spelled spelled' same => ?_, fun absolute => ⟨fun file other => ?_, ?_, ?_⟩⟩
  · cases absolute : root.isAbsolute with
    | true =>
      exact congrArg Path.text ((parts absolute file other spelled spelled').mp same)
    | false => rw [Path.eq_of_same_join_of_tidy absolute spelled spelled' same]
  · exact Path.same_join_iff_tidy_part absolute
  · intro file other whole whole'
    rw [Path.label, Path.label, whole.mk_text, whole'.mk_text]
    exact Path.same_join_iff_tidy_part absolute
  · intro hits spelled whole file inside
    rw [count_ofHits]
    apply List.countP_congr
    intro o member
    have known := Hits.file_mem_paths member
    simp only [decide_eq_true_eq]
    rw [parts absolute o.file file (spelled _ known) (spelled file inside)]
    exact ((whole _ known).text_inj (whole file inside))

/-- One file under an absolute and a relative spelling, beside another file. -/
theorem rows_of_tidy_files_two_spellings :
    let hits := Hits.ofList [⟨⟨"/r/a/b.c"⟩, [1, 2]⟩, ⟨⟨"a/c.c"⟩, [5]⟩, ⟨⟨"a/b.c"⟩, [7]⟩]
    Path.label ⟨"/r/."⟩ ⟨"/r/a/b.c"⟩ = Path.label ⟨"/r/."⟩ ⟨"a/b.c"⟩ ∧
      (ofHits ⟨"/r/."⟩ hits).count "a/b.c" = 3 := by
  intro hits
  obtain ⟨labels, rows⟩ := rows_of_tidy_files ⟨"/r/."⟩
  have tidy : ∀ file ∈ hits.paths, file.tidy = file := by decide
  have whole : ∀ file ∈ hits.paths, (Path.part ⟨"/r/."⟩ file).IsText := by decide
  obtain ⟨-, -, rows⟩ := rows rfl
  have counted := rows hits tidy whole ⟨"a/b.c"⟩ (by decide)
  have label : Path.label ⟨"/r/."⟩ ⟨"a/b.c"⟩ = "a/b.c" := by decide
  rw [label] at counted
  exact ⟨labels _ _ (by decide) (by decide) (by decide), counted.trans (by decide)⟩

/-- Not all spellings of one file share their label: one with a double slash keeps it, and the file
gets a second row. -/
theorem rows_split_by_idle_piece :
    (¬∀ root file other : Path, file.text ≠ "" → other.text ≠ "" →
      (root.join file).Same (root.join other) → Path.label root file = Path.label root other) ∧
    (ofHits ⟨"/r"⟩ (Hits.ofList [⟨⟨"/r/a//b.c"⟩, [1]⟩, ⟨⟨"a/b.c"⟩, [2]⟩])).entries =
      [("a//b.c", 1), ("a/b.c", 1)] := by
  refine ⟨fun merged => ?_, by decide⟩
  have same := merged ⟨"/r"⟩ ⟨"/r/a//b.c"⟩ ⟨"a/b.c"⟩ (by decide) (by decide) (by decide)
  exact absurd same (by decide)

end CallAtlas.Inventory
