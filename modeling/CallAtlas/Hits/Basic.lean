import CallAtlas.Path.Basic

set_option autoImplicit false
set_option relaxedAutoImplicit false

/-!
Hits: the line numbers of a pattern's occurrences, grouped by file.  Files stand in the order of
their first occurrence under their first spelling, and no file stands twice.
-/

namespace CallAtlas

structure FileHits where
  file : Path
  lines : List Nat
  deriving DecidableEq

structure Hits where
  files : List FileHits
  distinct : files.Pairwise fun a b => ¬a.file.Same b.file

namespace Hits

/-- Adds occurrences to the entry of their file, or as a new entry at the end. -/
def addTo (file : Path) (lines : List Nat) : List FileHits → List FileHits
  | [] => [⟨file, lines⟩]
  | entry :: rest =>
    if entry.file.Same file then { entry with lines := entry.lines ++ lines } :: rest
    else entry :: addTo file lines rest

theorem mem_of_mem_addTo {file : Path} {lines : List Nat} {x : FileHits}
    {entries : List FileHits} (h : x ∈ addTo file lines entries) :
    x.file = file ∨ ∃ entry ∈ entries, entry.file = x.file := by
  induction entries with
  | nil =>
    have h : x = ⟨file, lines⟩ := by simpa [addTo] using h
    exact .inl (h ▸ rfl)
  | cons entry rest ih =>
    unfold addTo at h
    split at h
    · rcases List.mem_cons.mp h with rfl | inside
      · exact .inr ⟨entry, List.mem_cons_self, rfl⟩
      · exact .inr ⟨x, List.mem_cons_of_mem _ inside, rfl⟩
    · rcases List.mem_cons.mp h with rfl | inside
      · exact .inr ⟨x, List.mem_cons_self, rfl⟩
      · rcases ih inside with same | ⟨old, inside, same⟩
        · exact .inl same
        · exact .inr ⟨old, List.mem_cons_of_mem _ inside, same⟩

theorem distinct_addTo {file : Path} {lines : List Nat} {entries : List FileHits}
    (h : entries.Pairwise fun a b => ¬a.file.Same b.file) :
    (addTo file lines entries).Pairwise fun a b => ¬a.file.Same b.file := by
  induction entries with
  | nil => simp [addTo]
  | cons entry rest ih =>
    obtain ⟨apart, others⟩ := List.pairwise_cons.mp h
    unfold addTo
    split
    · exact List.pairwise_cons.mpr ⟨apart, others⟩
    · rename_i different
      refine List.pairwise_cons.mpr ⟨fun x inside => ?_, ih others⟩
      rcases mem_of_mem_addTo inside with same | ⟨old, inside, same⟩
      · exact same ▸ different
      · exact same ▸ apart old inside

def empty : Hits := ⟨[], List.Pairwise.nil⟩

def add (hits : Hits) (file : Path) (lines : List Nat) : Hits :=
  ⟨addTo file lines hits.files, distinct_addTo hits.distinct⟩

def ofList (entries : List FileHits) : Hits :=
  entries.foldl (fun hits entry => hits.add entry.file entry.lines) empty

@[simp] theorem files_add (hits : Hits) (file : Path) (lines : List Nat) :
    (hits.add file lines).files = addTo file lines hits.files := rfl

end Hits

end CallAtlas
