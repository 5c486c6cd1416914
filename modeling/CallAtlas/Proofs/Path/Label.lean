import CallAtlas.Proofs.Path.Part
import CallAtlas.Proofs.Survey.Manifest

set_option autoImplicit false
set_option relaxedAutoImplicit false

namespace CallAtlas.Path

def shown (bytes : List UInt8) : List UInt8 := Text.encode (Text.decodeLossy bytes)

theorem isUtf8_of_shown {bytes : List UInt8} (same : shown bytes = bytes) : Text.IsUtf8 bytes :=
  Text.isUtf8_iff.mpr same

theorem shown_eq (bytes : List UInt8) :
    shown bytes = (Text.decodeFrom none bytes).flatMap String.utf8EncodeChar :=
  Text.encode_ofList _

theorem pieces_shown (bytes : List UInt8) :
    Text.pieces slash (shown bytes) = (Text.pieces slash bytes).map shown := by
  have cut := @Text.pieces_flatMap '/' (by decide) (Text.decodeFrom none bytes)
  have read := @Text.pieces_decodeFrom '/' (by decide) (by decide) bytes
  rw [read, List.map_map] at cut
  rw [shown_eq]
  refine cut.trans (List.map_congr_left fun piece _ => ?_)
  exact (shown_eq piece).symm

theorem shown_eq_encode {bytes : List UInt8} {text : String} :
    shown bytes = Text.encode text ↔ Text.decodeFrom none bytes = text.toList := by
  rw [shown, Text.encode_inj, ← String.toList_inj, Text.decodeLossy, String.toList_ofList]

theorem isIdle_shown (piece : List UInt8) : isIdle (shown piece) = isIdle piece := by
  have empty : shown piece = [] ↔ piece = [] := by
    refine (@shown_eq_encode piece "").trans ⟨Text.decodeFrom_eq_nil, ?_⟩
    rintro rfl
    rfl
  have single : shown piece = [dot] ↔ piece = [dot] := by
    refine (@shown_eq_encode piece ".").trans
      ⟨@Text.decodeFrom_eq_singleton '.' (by decide) (by decide) piece, ?_⟩
    rintro rfl
    rfl
  rw [isIdle, isIdle, decide_eq_decide.mpr empty, decide_eq_decide.mpr single]

theorem shown_eq_of_segmentsOf_eq {pieces : List (List UInt8)}
    (same : segmentsOf (pieces.map shown) = segmentsOf pieces) :
    ∀ piece ∈ pieces, shown piece = piece := by
  induction pieces with
  | nil => exact fun _ none => nomatch none
  | cons piece rest ih =>
    rw [List.forall_mem_cons]
    by_cases idle : isIdle piece = true
    · have idle' : isIdle (shown piece) = true := (isIdle_shown piece).trans idle
      rw [List.map_cons, segmentsOf_cons_of_idle idle', segmentsOf_cons_of_idle idle] at same
      refine ⟨?_, ih same⟩
      rw [isIdle, Bool.or_eq_true, decide_eq_true_eq, decide_eq_true_eq] at idle
      rcases idle with rfl | rfl
      · rfl
      · rfl
    · have busy : ¬isIdle (shown piece) = true := by rwa [isIdle_shown]
      obtain ⟨segment, found⟩ := exists_segmentOf? idle
      obtain ⟨segment', found'⟩ := exists_segmentOf? busy
      rw [List.map_cons, segmentsOf, segmentsOf, List.filterMap_cons_some found,
        List.filterMap_cons_some found'] at same
      obtain ⟨rfl, others⟩ := List.cons.inj same
      exact ⟨eq_of_segmentOf?_eq busy idle (found'.trans found.symm), ih others⟩

theorem bytes_mk_text (path : Path) : (mk path.text).bytes = shown path.bytes := rfl

theorem isText_of_trail_eq {path : Path} (same : (mk path.text).trail = path.trail) :
    path.IsText := by
  rw [trail, trail, bytes_mk_text, pieces_shown] at same
  have each := shown_eq_of_segmentsOf_eq same
  rw [isText_iff, ← Text.joinWith_pieces slash path.bytes]
  exact @Text.isUtf8_joinWith '/' (by decide) _ fun piece inside =>
    isUtf8_of_shown (each piece inside)

theorem isAbsolute_mk_text (path : Path) : (mk path.text).isAbsolute = path.isAbsolute := by
  rw [Bool.eq_iff_iff, isAbsolute_iff_text, isAbsolute_iff_text, text_mk]

/-- The label of a file below the root, or of an absolute one, leads back to it exactly if it shows
all bytes of its part. -/
theorem join_label_iff {root file : Path} (reached : root.Under file ∨ file.isAbsolute) :
    (root.join ⟨label root file⟩).Same file ↔ (part root file).IsText := by
  constructor
  · intro back
    have same := (back.trans (join_part reached).symm).trail_eq
    rw [trail_join, trail_join, label, isAbsolute_mk_text] at same
    apply isText_of_trail_eq
    split at same
    · exact same
    · exact List.append_cancel_left same
  · intro whole
    have spelled : (⟨label root file⟩ : Path) = part root file := whole.mk_text
    rw [spelled]
    exact join_part reached

end CallAtlas.Path

namespace CallAtlas.Occurrence

section Reached

variable {root : Path} {hits : Hits}
  (reached : ∀ file ∈ hits.paths, root.Under file ∨ file.isAbsolute)
  (whole : ∀ file ∈ hits.paths, (Path.part root file).IsText)

include reached whole

theorem exists_reported_of_mem_scope {tags : Path → List Tag.Record} {limit : Nat} {file : Path}
    (inside : file ∈ (select (tableOf root tags hits) root limit).scope.files) :
    ∃ reported ∈ hits.paths, file.Same reported := by
  obtain ⟨key, known, rfl⟩ := exists_key_of_mem_scope inside
  obtain ⟨reported, stands, label⟩ := exists_file_of_mem_tableOf known
  refine ⟨reported, stands, ?_⟩
  rw [← label]
  exact (Path.join_label_iff (reached reported stands)).mpr (whole reported stands)

theorem nodup_labels : (hits.paths.map (Path.label root)).Nodup := by
  rw [List.nodup_iff_pairwise_ne, List.pairwise_map]
  apply List.Pairwise.imp_of_mem _ hits.paths_distinct
  intro file other inside inside' apart same
  exact apart (Path.same_of_part_eq (reached file inside) (reached other inside')
    (((whole file inside).text_inj (whole other inside')).mp same))

end Reached

/-- Joining the label of a file to the root gives the file again, under some spelling, if the file
is below the root or absolute and what is labelled, its part below the root or all of it, is a text;
with other bytes it does not.  So hits in such files have a label of its own for each of them, and
where all tag calls get their answers, every path in the scope of a selection is a file of the
hits. -/
theorem labels_lead_back (behaviour : Behaviour) (session : Session) (root : Path) :
    (∀ file : Path, root.Under file ∨ file.isAbsolute →
      ((root.join ⟨Path.label root file⟩).Same file ↔ (Path.part root file).IsText)) ∧
    ∀ hits : Hits, (∀ file ∈ hits.paths, root.Under file ∨ file.isAbsolute) →
      (∀ file ∈ hits.paths, (Path.part root file).IsText) →
      (hits.paths.map (Path.label root)).Nodup ∧
      ∀ tags, behaviour.Tagged session.journal hits.paths tags →
        ∃ table, ((tabulate (Services.recorded behaviour) root hits).run session).1 = .ok table ∧
          ∀ limit, ∀ file ∈ (select table root limit).scope.files,
            ∃ reported ∈ hits.paths, file.Same reported := by
  refine ⟨fun file => Path.join_label_iff, fun hits reached whole => ⟨?_, fun tags tagged => ?_⟩⟩
  · exact nodup_labels reached whole
  · exact ⟨tableOf root tags hits, tabulate_answered tagged, fun limit file =>
      exists_reported_of_mem_scope reached whole⟩

/-- A root with an idle end, and files below it, at it and above it under several spellings. -/
theorem labels_lead_back_across_spellings :
    let start : Tag.Record :=
      [("kind", .string Tag.functionKind), ("line", .integer 1), ("name", .string "f")]
    let behaviour : Behaviour :=
      ⟨fun _ _ _ => .ok Hits.empty, fun _ _ => .ok [start], fun _ _ => .ok (), fun _ _ => .ok []⟩
    let root : Path := ⟨"/r/."⟩
    let hits := Hits.ofList
      [⟨⟨"//r/./a//b/"⟩, [3]⟩, ⟨⟨"/r/../a/b"⟩, [1, 2]⟩, ⟨⟨"/r"⟩, [7]⟩, ⟨⟨"/s/./a"⟩, [9]⟩]
    (root.join ⟨Path.label root ⟨"//r/./a//b/"⟩⟩).Same ⟨"/r/a/b"⟩ ∧
      (hits.paths.map (Path.label root)).Nodup ∧
      ∃ table, ((tabulate (Services.recorded behaviour) root hits).run Session.start).1 =
          .ok table ∧
        ∀ file ∈ (select table root 4).scope.files, ∃ reported ∈ hits.paths, file.Same reported := by
  intro start behaviour root hits
  obtain ⟨back, found⟩ := labels_lead_back behaviour Session.start root
  have absolute : ∀ file ∈ hits.paths, root.Under file ∨ file.isAbsolute := by decide
  have whole : ∀ file ∈ hits.paths, (Path.part root file).IsText := by decide
  obtain ⟨distinct, selected⟩ := found hits absolute whole
  obtain ⟨table, run, scope⟩ := selected (fun _ => [start])
    (Behaviour.answered_cons.mpr ⟨rfl, Behaviour.answered_cons.mpr ⟨rfl,
      Behaviour.answered_cons.mpr ⟨rfl, Behaviour.answered_cons.mpr ⟨rfl,
        Behaviour.answered_nil⟩⟩⟩⟩)
  have same : Path.Same ⟨"//r/./a//b/"⟩ ⟨"/r/a/b"⟩ := by decide
  have returned := (back ⟨"//r/./a//b/"⟩ (.inr (by decide))).mpr (by decide)
  exact ⟨returned.trans same, distinct, table, run, scope 4⟩

/-- Bytes that are no text are not told from each other by labels: two files share one, and it leads
to neither of them. -/
theorem labels_merge_other_bytes :
    let root : Path := ⟨"/r"⟩
    let file : Path := ⟨Text.encode "/r/" ++ 0xFF :: Text.encode ".c"⟩
    let other : Path := ⟨Text.encode "/r/" ++ 0xFE :: Text.encode ".c"⟩
    let hits := Hits.ofList [⟨file, [1]⟩, ⟨other, [1]⟩]
    (∀ file ∈ hits.paths, root.Under file ∧ file.isAbsolute) ∧ hits.paths = [file, other] ∧
      hits.paths.map (Path.label root) = ["\uFFFD.c", "\uFFFD.c"] ∧ ¬file.Same other ∧
      ∀ reported ∈ hits.paths, ¬(root.join ⟨"\uFFFD.c"⟩).Same reported := by
  decide

end CallAtlas.Occurrence
