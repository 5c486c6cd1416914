import CallAtlas.Proofs.Inventory
import CallAtlas.Proofs.Path.Label
import CallAtlas.Root

set_option autoImplicit false
set_option relaxedAutoImplicit false

namespace CallAtlas.Path

def EndsInSlash (path : Path) : Prop := path.text.toList.getLast? = some '/'

instance (path : Path) : Decidable path.EndsInSlash := inferInstanceAs (Decidable (_ = _))

/-- The spelling of a directory up to where a relative path is put on. -/
def stem (directory : Path) : List Char :=
  if directory.EndsInSlash then directory.text.toList else directory.text.toList ++ ['/']

/-- The lines of a path that a newline ends: none in a path without line breaks. -/
def brokenOff (path : Path) : List (List Char) := (Text.pieces '\n' path.text.toList).dropLast

theorem bytes_ne_nil_of_isAbsolute {path : Path} (absolute : path.isAbsolute = true) :
    path.bytes ≠ [] := by
  intro none
  rw [isAbsolute, none] at absolute
  cases absolute

/-! The part below a directory. -/

variable {directory path part : Path}

theorem exists_trimmed_of_below? (filled : directory.segments ≠ [])
    (below : below? directory path = some part) :
    ∃ pieces, part = spell .unwritten (trim pieces) ∧ ∀ piece ∈ trim pieces, slash ∉ piece := by
  unfold below? at below
  dsimp only at below
  split at below
  · rw [if_neg (mt List.isEmpty_iff.mp filled)] at below
    refine ⟨_, (Option.some.inj below).symm, fun piece inside => ?_⟩
    apply slash_notMem_of_mem_cut
    exact ((trim_sublist _).trans (dropSegments_sublist _ _)).subset inside
  · cases below

theorem segments_of_below? (filled : directory.segments ≠ [])
    (below : below? directory path = some part) :
    path.segments = directory.segments ++ part.segments := by
  -- Only a trimmed part has its own segments behind a directory: others may start at an anchor.
  have back := join_below? below
  obtain ⟨pieces, rfl, plain⟩ := exists_trimmed_of_below? filled below
  have busy := busy_trim pieces
  rw [Same, segments_join (isAbsolute_spell_unwritten plain busy)
    (mt segments_eq_nil_iff.mpr filled)] at back
  rw [← back, segments_spell plain fun _ => busy, spell,
    segmentsOf_pieces_joinWith plain]
  rfl

theorem not_isIdle_of_getLast?_trim {pieces : List (List UInt8)} {piece : List UInt8}
    (last : (trim pieces).getLast? = some piece) : ¬isIdle piece := by
  rw [trim, trimEnd, List.getLast?_reverse] at last
  exact busy_dropWhile _ piece last

theorem endsInSlash_iff {path : Path} :
    path.EndsInSlash ↔ path.bytes.getLast? = some slash := getLast?_text

theorem not_endsInSlash_of_below? (filled : directory.segments ≠ [])
    (below : below? directory path = some part) : ¬part.EndsInSlash := by
  obtain ⟨pieces, rfl, plain⟩ := exists_trimmed_of_below? filled below
  rw [endsInSlash_iff, spell]
  rcases List.eq_nil_or_concat' (trim pieces) with none | ⟨others, last, split⟩
  · rw [none]
    intro slash
    cases slash
  · obtain ⟨before, joined⟩ := Text.exists_joinWith_concat slash others last
    have busy : ¬isIdle last := not_isIdle_of_getLast?_trim (by rw [split, List.getLast?_concat])
    have some : last ≠ [] := fun none => busy (none ▸ rfl)
    rw [split, joined, List.getLast?_append_of_ne_nil _ some]
    intro slash
    exact plain last (split ▸ by simp) (List.mem_of_getLast? slash)

/-! Labels. -/

variable {root file : Path}

theorem label_eq_empty_iff (filled : root.segments ≠ []) (some : file.text ≠ "") :
    label root file = "" ↔ file.Same root := by
  rw [label, part]
  cases below : below? root file with
  | none =>
    refine iff_of_false some fun same => not_under_of_below? below ?_
    rw [Under, ← same]
  | some part =>
    have split := segments_of_below? filled below
    rw [Option.getD_some, Same, split, List.append_right_eq_self, segments_eq_nil_iff,
      text_eq_empty_iff]

theorem not_endsInSlash_label (filled : root.segments ≠ []) (unclosed : ¬file.EndsInSlash) :
    ¬(Path.mk (label root file)).EndsInSlash := by
  rw [EndsInSlash, text_mk, label, part]
  cases below : below? root file with
  | none => exact unclosed
  | some part => exact not_endsInSlash_of_below? filled below

/-! Paths put together. -/

theorem getLast?_stem (directory : Path) : directory.stem.getLast? = some '/' := by
  unfold stem
  split
  · assumption
  · exact List.getLast?_concat

theorem pieces_stem (directory : Path) :
    (Text.pieces '\n' directory.stem).dropLast = directory.brokenOff := by
  unfold stem
  split
  · rfl
  · have absent : '\n' ∉ ['/'] := by decide
    obtain ⟨last, split⟩ := Text.exists_pieces_append absent directory.text.toList
    rw [split, List.dropLast_concat, brokenOff]

theorem toList_join_of_relative (relative : path.isAbsolute = false)
    (filled : directory.text ≠ "") :
    (directory.join path).text.toList = directory.stem ++ path.text.toList := by
  unfold stem
  split
  · rename_i closed
    exact toList_join_of_last relative closed
  · rename_i unclosed
    rw [toList_join_of_open relative filled unclosed, List.append_assoc, List.singleton_append]

/-- Only an empty path puts a slash at the end. -/
theorem endsInSlash_join (filled : directory.text ≠ "") :
    (directory.join path).EndsInSlash ↔ path.text = "" ∨ path.EndsInSlash := by
  cases absolute : path.isAbsolute with
  | true =>
    have some : path.text ≠ "" :=
      mt text_eq_empty_iff.mp (bytes_ne_nil_of_isAbsolute absolute)
    rw [join, if_pos absolute]
    simp [some]
  | false =>
    rw [EndsInSlash, EndsInSlash, toList_join_of_relative absolute filled, List.getLast?_append,
      getLast?_stem, ← String.toList_eq_nil_iff]
    rcases List.eq_nil_or_concat' path.text.toList with none | ⟨front, last, split⟩
    · simp [none]
    · simp [split]

theorem mem_brokenOff_of_mem_pieces_join (filled : directory.text ≠ "")
    (plain : '\n' ∉ path.text.toList) (some : path.text ≠ "") (unclosed : ¬path.EndsInSlash)
    {line : List Char} (inside : line ∈ Text.pieces '\n' (directory.join path).text.toList)
    (closed : line.getLast? = Option.some '/') : line ∈ directory.brokenOff := by
  cases absolute : path.isAbsolute with
  | true =>
    rw [join, if_pos absolute, Text.pieces_of_notMem plain, List.mem_singleton] at inside
    rw [inside] at closed
    exact absurd closed unclosed
  | false =>
    -- The path stands behind the last newline, so all it does is to lengthen the last line.
    obtain ⟨last, split⟩ := Text.exists_pieces_append plain directory.stem
    rw [toList_join_of_relative absolute filled, split, pieces_stem] at inside
    rcases List.mem_append.mp inside with broken | ending
    · exact broken
    · have tail : path.text.toList ≠ [] := mt String.toList_eq_nil_iff.mp some
      rw [List.mem_singleton.mp ending, List.getLast?_append_of_ne_nil _ tail] at closed
      exact absurd closed unclosed

end CallAtlas.Path

namespace CallAtlas

theorem Root.isAbsolute_of_resolve {world : World} {given settings : Option Path} {root : Path}
    (resolved : resolve world given settings = .ok root) : root.isAbsolute = true := by
  unfold resolve at resolved
  dsimp only at resolved
  split at resolved
  · cases resolved
  · split at resolved
    · cases resolved
    · rename_i found
      obtain rfl := Except.ok.inj resolved
      unfold canonical at found
      cases led : world.disk.lookup world.workdir ⟨_⟩ with
      | error error =>
        rw [led] at found
        cases found
      | ok arrived =>
        rw [led] at found
        obtain rfl := Except.ok.inj found
        simp [Location.path, Path.isAbsolute_iff_text]

theorem Hits.text_ne_empty_of_mem_read {output : String} {file : Path}
    (inside : file ∈ (read output).paths) : file.text ≠ "" := by
  obtain ⟨o, reported, rfl⟩ := mem_paths_ofOccurrences inside
  obtain ⟨row, -, read⟩ := List.mem_filterMap.mp reported
  obtain ⟨-, rest, -, some, -⟩ := Occurrence.read?_eq_some.mp read
  exact mt String.toList_eq_nil_iff.mpr some

namespace Occurrence

variable {root : Path} {table : Table} {limit : Nat}

theorem endsInSlash_iff_of_mem_scope (filled : root.text ≠ "")
    (unclosed : ∀ key ∈ table.keys, ¬(Path.mk key.file).EndsInSlash) {file : Path}
    (inside : file ∈ (select table root limit).scope.files) :
    file.EndsInSlash ↔ file = root.join ⟨""⟩ := by
  obtain ⟨key, known, rfl⟩ := exists_key_of_mem_scope inside
  have empty : (root.join ⟨key.file⟩).EndsInSlash ↔ key.file = "" := by
    rw [Path.endsInSlash_join filled, or_iff_left (unclosed key known), Path.text_mk]
  constructor
  · intro closed
    rw [empty.mp closed]
  · intro same
    rw [same]
    exact (Path.endsInSlash_join filled).mpr (.inl rfl)

/-- Without an empty label, a line of the manifest that ends in a slash is one of the root. -/
theorem mem_brokenOff_of_mem_listed (filled : root.text ≠ "")
    (unclosed : ∀ key ∈ table.keys, ¬(Path.mk key.file).EndsInSlash)
    (plain : ∀ key ∈ table.keys, '\n' ∉ key.file.toList)
    (some : ∀ key ∈ table.keys, key.file ≠ "") {line : Path}
    (inside : line ∈ Scope.listed (select table root limit).scope.manifest)
    (closed : line.EndsInSlash) : line.text.toList ∈ root.brokenOff := by
  rcases Scope.exists_file_of_mem_listed inside with none | ⟨file, member, split⟩
  · rw [Path.EndsInSlash, none] at closed
    cases closed
  · obtain ⟨key, known, rfl⟩ := exists_key_of_mem_scope member
    have shown : (Path.mk key.file).text = key.file := Path.text_mk _
    exact Path.mem_brokenOff_of_mem_pieces_join filled (shown.symm ▸ plain key known)
      (shown.symm ▸ some key known) (unclosed key known) split closed

/-- Under a resolved root, the inventory and the table of a search output have the empty label
exactly if a file of the hits is the root.  Where no path of the hits ends in a slash, a path of the
scope ends in one exactly if it comes from the empty label; so where no file of the hits is the
root, none does, and a line of the manifest does only if a newline of the root broke it off. -/
theorem empty_label_names_root (world : World) (given settings : Option Path) (root : Path)
    (resolved : Root.resolve world given settings = .ok root) (behaviour : Behaviour)
    (session : Session) (output : String)
    (unclosed : ∀ file ∈ (Hits.read output).paths, ¬file.EndsInSlash)
    (tags : Path → List Tag.Record)
    (tagged : behaviour.Tagged session.journal (Hits.read output).paths tags) :
    let hits := Hits.read output
    ∃ table, ((tabulate (Services.recorded behaviour) root hits).run session).1 = .ok table ∧
      ("" ∈ (Inventory.ofHits root hits).keys ↔ ∃ file ∈ hits.paths, file.Same root) ∧
      ("" ∈ table.files ↔ ∃ file ∈ hits.paths, file.Same root) ∧
      ∀ limit,
        let scope := (select table root limit).scope
        (∀ file ∈ scope.files, file.EndsInSlash ↔ file = root.join ⟨""⟩) ∧
        ((∀ file ∈ hits.paths, ¬file.Same root) →
          (∀ file ∈ scope.files, ¬file.EndsInSlash) ∧
          ∀ line ∈ Scope.listed scope.manifest, line.EndsInSlash →
            line.text.toList ∈ root.brokenOff) := by
  intro hits
  have named := Path.bytes_ne_nil_of_isAbsolute (Root.isAbsolute_of_resolve resolved)
  have filled : root.text ≠ "" := mt Path.text_eq_empty_iff.mp named
  have anchored : root.segments ≠ [] := mt Path.segments_eq_nil_iff.mp named
  have inventory :
      "" ∈ (Inventory.ofHits root hits).keys ↔ ∃ file ∈ hits.paths, file.Same root := by
    rw [Inventory.mem_keys_ofHits]
    refine exists_congr fun file => and_congr_right fun inside => ?_
    exact Path.label_eq_empty_iff anchored (Hits.text_ne_empty_of_mem_read inside)
  have files : "" ∈ (tableOf root tags hits).files ↔ ∃ file ∈ hits.paths, file.Same root :=
    (mem_keys_iff_mem_files (Hits.lines_ofOccurrences_ne_nil _)).symm.trans inventory
  have unclosed' : ∀ key ∈ (tableOf root tags hits).keys, ¬(Path.mk key.file).EndsInSlash := by
    intro key inside
    obtain ⟨file, member, label⟩ := exists_file_of_mem_tableOf inside
    rw [← label]
    exact Path.not_endsInSlash_label anchored (unclosed file member)
  refine ⟨tableOf root tags hits, tabulate_answered tagged, inventory, files, ?_⟩
  intro limit scope
  have ends : ∀ file ∈ scope.files, file.EndsInSlash ↔ file = root.join ⟨""⟩ :=
    fun file inside => endsInSlash_iff_of_mem_scope filled unclosed' inside
  refine ⟨ends, fun apart => ?_⟩
  have some : ∀ key ∈ (tableOf root tags hits).keys, key.file ≠ "" := by
    intro key inside none
    obtain ⟨file, member, same⟩ := files.mp (none ▸ List.mem_map_of_mem inside)
    exact apart file member same
  constructor
  · intro file inside closed
    obtain ⟨key, member, rfl⟩ := exists_key_of_mem_scope inside
    have ending := (Path.endsInSlash_join filled).mp closed
    rw [Path.text_mk] at ending
    exact some key member (ending.resolve_right (unclosed' key member))
  · intro line inside closed
    exact mem_brokenOff_of_mem_listed filled unclosed'
      (fun key => newline_notMem_of_mem_tableOf) some inside closed

/-- A root that a link leads to, with a file in it and one outside of it. -/
theorem empty_label_names_root_behind_link :
    let start : Tag.Record :=
      [("kind", .string Tag.functionKind), ("line", .integer 1), ("name", .string "f")]
    let behaviour : Behaviour :=
      ⟨fun _ _ _ => .ok Hits.empty, fun _ _ => .ok [start], fun _ _ => .ok (), fun _ _ => .ok []⟩
    let disk : Disk := ⟨[(["r"], .directory), (["l"], .link "r/.")]⟩
    let world : World := ⟨disk, [], [("T", "l/")], fun _ => ⟨[], [], .exited 0⟩, id, [], [], []⟩
    let output := "/r/./a.c:5:t\n/s/b.c:2:t\n"
    Root.resolve world (some ⟨"/$T"⟩) none = .ok ⟨"/r"⟩ ∧
      ∃ table, ((tabulate (Services.recorded behaviour) ⟨"/r"⟩ (Hits.read output)).run
          Session.start).1 = .ok table ∧
        "" ∉ (Inventory.ofHits ⟨"/r"⟩ (Hits.read output)).keys ∧ "" ∉ table.files ∧
        ∀ line ∈ Scope.listed (select table ⟨"/r"⟩ 2).scope.manifest, ¬line.EndsInSlash := by
  intro start behaviour disk world output
  have resolved : Root.resolve world (some ⟨"/$T"⟩) none = .ok ⟨"/r"⟩ := by
    decide +kernel
  have paths : (Hits.read output).paths = [⟨"/r/./a.c"⟩, ⟨"/s/b.c"⟩] := by decide +kernel
  have tagged :
      behaviour.Tagged Session.start.journal (Hits.read output).paths fun _ => [start] := by
    rw [paths]
    exact Behaviour.answered_cons.mpr ⟨rfl, Behaviour.answered_cons.mpr ⟨rfl,
      Behaviour.answered_nil⟩⟩
  have apart : ∀ file ∈ (Hits.read output).paths, ¬file.Same ⟨"/r"⟩ := by
    rw [paths]
    decide
  obtain ⟨table, found, inventory, files, selected⟩ := empty_label_names_root world _ _ ⟨"/r"⟩
    resolved behaviour Session.start output (by rw [paths]; decide) (fun _ => [start]) tagged
  have none : ¬∃ file ∈ (Hits.read output).paths, file.Same ⟨"/r"⟩ :=
    fun ⟨file, inside, same⟩ => apart file inside same
  obtain ⟨-, plain⟩ := selected 2
  refine ⟨resolved, table, found, mt inventory.mp none, mt files.mp none, ?_⟩
  intro line inside closed
  have whole : (Path.mk "/r").brokenOff = [] := by decide
  have broken := (plain apart).2 line inside closed
  rw [whole] at broken
  cases broken

/-- A file given as root has an empty label, and its path in the scope leads to nothing. -/
theorem empty_label_of_root_file :
    let start : Tag.Record :=
      [("kind", .string Tag.functionKind), ("line", .integer 1), ("name", .string "f")]
    let behaviour : Behaviour :=
      ⟨fun _ _ _ => .ok Hits.empty, fun _ _ => .ok [start], fun _ _ => .ok (), fun _ _ => .ok []⟩
    let disk : Disk := ⟨[(["r"], .directory), (["r", "a.c"], .file "")]⟩
    let world : World := ⟨disk, [], [], fun _ => ⟨[], [], .exited 0⟩, id, [], [], []⟩
    let root : Path := ⟨"/r/a.c"⟩
    let hits := Hits.read "/r/a.c:5:t\n"
    Root.resolve world (some root) none = .ok root ∧
      (∀ file ∈ hits.paths, ¬file.EndsInSlash) ∧ "" ∈ (Inventory.ofHits root hits).keys ∧
      ∃ table, ((tabulate (Services.recorded behaviour) root hits).run Session.start).1 =
          .ok table ∧ "" ∈ table.files ∧
        (select table root 10).scope.manifest = "/r/a.c/" ∧
        disk.exists? [] ⟨"/r/a.c/"⟩ = false := by
  intro start behaviour disk world root hits
  have tagged : behaviour.Tagged Session.start.journal hits.paths fun _ => [start] :=
    Behaviour.answered_cons.mpr ⟨rfl, Behaviour.answered_nil⟩
  refine ⟨by decide +kernel, by decide +kernel, by decide +kernel, _, tabulate_answered tagged, ?_,
    ?_, ?_⟩
  · decide +kernel
  · decide +kernel
  · decide +kernel

end Occurrence

end CallAtlas
