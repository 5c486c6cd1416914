import CallAtlas.Hits.Record
import Mathlib.Algebra.GroupWithZero.Nat

set_option autoImplicit false
set_option relaxedAutoImplicit false

namespace CallAtlas.Hits

def paths (hits : Hits) : List Path := hits.files.map FileHits.file

def occurrencesIn (entries : List FileHits) : List Occurrence :=
  entries.flatMap fun entry => entry.lines.map fun line => ⟨entry.file, line⟩

/-- Every single occurrence, file by file. -/
def occurrences (hits : Hits) : List Occurrence := occurrencesIn hits.files

def reported (output : String) : List Occurrence :=
  (Text.lines output.toList).filterMap Occurrence.read?

/-- Every path has one spelling among some files. -/
def Spelled (files : List Path) : Prop := ∀ a ∈ files, ∀ b ∈ files, a.Same b → a = b

def lineCounts (hits : Hits) : List (Path × Nat) :=
  hits.files.map fun entry => (entry.file, entry.lines.length)

@[simp] theorem occurrencesIn_nil : occurrencesIn [] = [] := rfl

@[simp] theorem occurrencesIn_cons (entry : FileHits) (rest : List FileHits) :
    occurrencesIn (entry :: rest) =
      (entry.lines.map fun line => ⟨entry.file, line⟩) ++ occurrencesIn rest := rfl

theorem paths_distinct (hits : Hits) : hits.paths.Pairwise fun a b => ¬a.Same b :=
  List.pairwise_map.mpr hits.distinct

theorem paths_nodup (hits : Hits) : hits.paths.Nodup := by
  apply List.nodup_iff_pairwise_ne.mpr
  apply hits.paths_distinct.imp
  intro a b apart same
  exact apart (same ▸ Path.Same.refl a)

theorem mem_occurrencesIn {o : Occurrence} {entries : List FileHits} :
    o ∈ occurrencesIn entries ↔ ∃ entry ∈ entries, entry.file = o.file ∧ o.line ∈ entry.lines := by
  simp only [occurrencesIn, List.mem_flatMap, List.mem_map]
  constructor
  · rintro ⟨entry, inside, line, member, rfl⟩
    exact ⟨entry, inside, rfl, member⟩
  · rintro ⟨entry, inside, same, member⟩
    exact ⟨entry, inside, o.line, member, by rw [same]⟩

theorem file_mem_paths {hits : Hits} {o : Occurrence} (inside : o ∈ hits.occurrences) :
    o.file ∈ hits.paths := by
  obtain ⟨entry, member, same, -⟩ := mem_occurrencesIn.mp inside
  exact same ▸ List.mem_map_of_mem member

theorem map_line_occurrences (hits : Hits) :
    hits.occurrences.map Occurrence.line = hits.files.flatMap FileHits.lines := by
  rw [occurrences, occurrencesIn, List.map_flatMap]
  simp only [List.map_map, Function.comp_def, List.map_id']

theorem countP_file_occurrences (hits : Hits) (p : Path → Bool) :
    (hits.occurrences.countP fun o => p o.file) =
      ((hits.files.filter fun entry => p entry.file).map fun entry => entry.lines.length).sum := by
  rw [occurrences]
  induction hits.files with
  | nil => rfl
  | cons entry rest ih =>
    rw [occurrencesIn_cons, List.countP_append, ih, List.countP_map]
    cases chosen : p entry.file <;> simp [Function.comp_def, chosen]

theorem length_occurrences (hits : Hits) :
    hits.occurrences.length = (hits.files.map fun entry => entry.lines.length).sum := by
  simp [occurrences, occurrencesIn, List.length_flatMap]

theorem mem_paths_add {hits : Hits} {file other : Path} {lines : List Nat}
    (h : other ∈ (hits.add file lines).paths) : other = file ∨ other ∈ hits.paths := by
  obtain ⟨entry, inside, rfl⟩ := List.mem_map.mp h
  rcases mem_of_mem_addTo inside with same | ⟨old, member, same⟩
  · exact .inl same
  · exact .inr (List.mem_map.mpr ⟨old, member, same⟩)

theorem mem_paths_foldl_add {occurrences : List Occurrence} {hits : Hits} {file : Path}
    (h : file ∈ (occurrences.foldl (fun hits o => hits.add o.file [o.line]) hits).paths) :
    file ∈ hits.paths ∨ ∃ o ∈ occurrences, o.file = file := by
  induction occurrences generalizing hits with
  | nil => exact .inl h
  | cons o rest ih =>
    rcases ih h with added | ⟨later, member, same⟩
    · rcases mem_paths_add added with equal | old
      · exact .inr ⟨o, List.mem_cons_self, equal.symm⟩
      · exact .inl old
    · exact .inr ⟨later, List.mem_cons_of_mem _ member, same⟩

theorem mem_paths_ofOccurrences {occurrences : List Occurrence} {file : Path}
    (h : file ∈ (ofOccurrences occurrences).paths) : ∃ o ∈ occurrences, o.file = file := by
  rcases mem_paths_foldl_add h with old | found
  · cases old
  · exact found

theorem occurrencesIn_addTo {file : Path} {lines : List Nat} {entries : List FileHits}
    (spelled : ∀ entry ∈ entries, entry.file.Same file → entry.file = file) :
    (occurrencesIn (addTo file lines entries)).Perm
      (occurrencesIn entries ++ lines.map fun line => ⟨file, line⟩) := by
  induction entries with
  | nil => simp [addTo]
  | cons entry rest ih =>
    unfold addTo
    split
    · rename_i same
      have equal := spelled entry List.mem_cons_self same
      simp only [occurrencesIn_cons, List.map_append, List.append_assoc, equal]
      exact List.perm_append_comm.append_left _
    · have later := ih fun other inside => spelled other (List.mem_cons_of_mem _ inside)
      simp only [occurrencesIn_cons, List.append_assoc]
      exact later.append_left _

theorem occurrences_foldl_add {occurrences : List Occurrence} {hits : Hits}
    (spelled : Spelled (hits.paths ++ occurrences.map Occurrence.file)) :
    (occurrences.foldl (fun hits o => hits.add o.file [o.line]) hits).occurrences.Perm
      (hits.occurrences ++ occurrences) := by
  induction occurrences generalizing hits with
  | nil => simp
  | cons o rest ih =>
    have next : Spelled ((hits.add o.file [o.line]).paths ++ rest.map Occurrence.file) := by
      have known {path : Path}
          (h : path ∈ (hits.add o.file [o.line]).paths ++ rest.map Occurrence.file) :
          path ∈ hits.paths ++ (o :: rest).map Occurrence.file := by
        rcases List.mem_append.mp h with added | later
        · rcases mem_paths_add added with rfl | old
          · simp
          · exact List.mem_append_left _ old
        · exact List.mem_append_right _ (List.mem_cons_of_mem _ later)
      intro a ha b hb
      exact spelled a (known ha) b (known hb)
    have first : (hits.add o.file [o.line]).occurrences.Perm (hits.occurrences ++ [o]) := by
      apply occurrencesIn_addTo
      intro entry inside same
      refine spelled entry.file ?_ o.file ?_ same
      · exact List.mem_append_left _ (List.mem_map_of_mem inside)
      · simp
    -- The occurrence joins its file's entry, which the permutation moves to the end.
    have both := (ih next).trans (first.append_right rest)
    simpa using both

theorem occurrences_ofOccurrences {occurrences : List Occurrence}
    (spelled : Spelled (occurrences.map Occurrence.file)) :
    (ofOccurrences occurrences).occurrences.Perm occurrences :=
  @occurrences_foldl_add occurrences empty spelled

theorem lines_addTo_ne_nil {file : Path} {lines : List Nat} {entries : List FileHits}
    (some : lines ≠ []) (h : ∀ entry ∈ entries, entry.lines ≠ []) :
    ∀ entry ∈ addTo file lines entries, entry.lines ≠ [] := by
  induction entries with
  | nil => simpa [addTo] using some
  | cons head rest ih =>
    have later : ∀ entry ∈ rest, entry.lines ≠ [] :=
      fun entry inside => h entry (List.mem_cons_of_mem _ inside)
    unfold addTo
    split
    · intro entry inside
      rcases List.mem_cons.mp inside with rfl | inside
      · simp [some]
      · exact later entry inside
    · intro entry inside
      rcases List.mem_cons.mp inside with rfl | inside
      · exact h entry List.mem_cons_self
      · exact ih later entry inside

theorem lines_ofOccurrences_ne_nil (occurrences : List Occurrence) :
    ∀ entry ∈ (ofOccurrences occurrences).files, entry.lines ≠ [] := by
  unfold ofOccurrences
  suffices ∀ hits : Hits, (∀ entry ∈ hits.files, entry.lines ≠ []) →
      ∀ entry ∈ (occurrences.foldl (fun hits o => hits.add o.file [o.line]) hits).files,
        entry.lines ≠ [] from this empty (by simp [empty])
  induction occurrences with
  | nil => exact fun _ h => h
  | cons o rest ih => exact fun hits h => ih _ (lines_addTo_ne_nil (by simp) h)

theorem countP_occurrencesIn_of_notMem {file : Path} {entries : List FileHits}
    (absent : file ∉ entries.map FileHits.file) :
    (occurrencesIn entries).countP (fun o => o.file = file) = 0 := by
  apply List.countP_eq_zero.mpr
  intro o member
  obtain ⟨entry, inside, same, -⟩ := mem_occurrencesIn.mp member
  simp only [decide_eq_true_eq]
  intro equal
  exact absent (List.mem_map.mpr ⟨entry, inside, same.trans equal⟩)

theorem countP_occurrencesIn {entry : FileHits} {entries : List FileHits}
    (nodup : (entries.map FileHits.file).Nodup) (member : entry ∈ entries) :
    (occurrencesIn entries).countP (fun o => o.file = entry.file) = entry.lines.length := by
  induction entries with
  | nil => cases member
  | cons head rest ih =>
    obtain ⟨absent, others⟩ := List.nodup_cons.mp nodup
    rw [occurrencesIn_cons, List.countP_append]
    rcases List.mem_cons.mp member with rfl | inside
    · rw [countP_occurrencesIn_of_notMem absent]
      simp [List.countP_map, Function.comp_def]
    · have apart : head.file ≠ entry.file :=
        fun same => absent (List.mem_map.mpr ⟨entry, inside, same.symm⟩)
      rw [ih others inside]
      simp [List.countP_map, Function.comp_def, apart]

theorem mem_lineCounts {hits : Hits} (filled : ∀ entry ∈ hits.files, entry.lines ≠ [])
    {file : Path} {count : Nat} :
    (file, count) ∈ hits.lineCounts ↔
      (∃ o ∈ hits.occurrences, o.file = file) ∧
        hits.occurrences.countP (fun o => o.file = file) = count := by
  constructor
  · intro member
    obtain ⟨entry, inside, equal⟩ := List.mem_map.mp member
    obtain ⟨rfl, rfl⟩ := Prod.mk.inj equal
    obtain ⟨line, first⟩ := List.exists_mem_of_ne_nil _ (filled entry inside)
    exact ⟨⟨⟨entry.file, line⟩, mem_occurrencesIn.mpr ⟨entry, inside, rfl, first⟩, rfl⟩,
      countP_occurrencesIn hits.paths_nodup inside⟩
  · rintro ⟨⟨o, member, rfl⟩, rfl⟩
    obtain ⟨entry, inside, same, -⟩ := mem_occurrencesIn.mp member
    refine List.mem_map.mpr ⟨entry, inside, ?_⟩
    rw [← same]
    exact congrArg _ (countP_occurrencesIn hits.paths_nodup inside).symm

theorem lineCounts_nodup (hits : Hits) : hits.lineCounts.Nodup := by
  have distinct := hits.paths_nodup
  rw [paths, List.nodup_iff_pairwise_ne, List.pairwise_map] at distinct
  rw [lineCounts, List.nodup_iff_pairwise_ne, List.pairwise_map]
  exact distinct.imp fun apart same => apart (Prod.mk.inj same).1

theorem lineCounts_perm {hits others : Hits} (filled : ∀ entry ∈ hits.files, entry.lines ≠ [])
    (filled' : ∀ entry ∈ others.files, entry.lines ≠ [])
    (h : hits.occurrences.Perm others.occurrences) :
    hits.lineCounts.Perm others.lineCounts := by
  apply (List.perm_ext_iff_of_nodup hits.lineCounts_nodup others.lineCounts_nodup).mpr
  rintro ⟨file, count⟩
  rw [mem_lineCounts filled, mem_lineCounts filled', h.countP_eq]
  simp only [h.mem_iff]

end CallAtlas.Hits
