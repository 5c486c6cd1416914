import CallAtlas.Path.Scope
import CallAtlas.Proofs.Distinct
import CallAtlas.Proofs.Path

set_option autoImplicit false
set_option relaxedAutoImplicit false

namespace CallAtlas.Scope

def Holds (scope : Scope) (path : Path) : Prop := ∃ file ∈ scope.files, file.Same path

/-- The files that a manifest lists, one on each line. -/
def listed (manifest : String) : List Path :=
  (Text.pieces '\n' manifest.toList).map fun line => ⟨String.ofList line⟩

theorem mem_of_mem_ofList {files : List Path} {file : Path} (h : file ∈ (ofList files).files) :
    file ∈ files := Ordered.mem_of_mem_ofList h

theorem holds_ofList {files : List Path} {path : Path} :
    (ofList files).Holds path ↔ ∃ file ∈ files, file.Same path := by
  constructor
  · rintro ⟨file, inside, same⟩
    exact ⟨file, mem_of_mem_ofList inside, same⟩
  · rintro ⟨file, inside, same⟩
    obtain ⟨other, member, equal⟩ := Ordered.exists_mem_ofList Path.segments inside
    exact ⟨other, member, Path.Same.trans equal same⟩

theorem pieces_manifest {scope : Scope} (some : scope.files ≠ []) :
    Text.pieces '\n' scope.manifest.toList =
      scope.files.flatMap fun file => Text.pieces '\n' file.text.toList := by
  rw [manifest, String.toList_ofList, Text.pieces_joinWith_flatMap (by simpa using some),
    List.flatMap_map]

theorem exists_file_of_mem_listed {scope : Scope} {line : Path}
    (inside : line ∈ listed scope.manifest) : line.text.toList = [] ∨
      ∃ file ∈ scope.files, line.text.toList ∈ Text.pieces '\n' file.text.toList := by
  obtain ⟨piece, member, rfl⟩ := List.mem_map.mp inside
  rw [Path.text_mk, String.toList_ofList]
  by_cases none : scope.files = []
  · rw [manifest, String.toList_ofList, none] at member
    exact .inl (List.mem_singleton.mp member)
  · rw [pieces_manifest none] at member
    exact .inr (List.mem_flatMap.mp member)

theorem listed_manifest {scope : Scope} (some : scope.files ≠ [])
    (plain : ∀ file ∈ scope.files, file.IsLine) : listed scope.manifest = scope.files := by
  have some' : scope.files.map (fun file => file.text.toList) ≠ [] := by simpa using some
  have plain' : ∀ line ∈ scope.files.map (fun file => file.text.toList), '\n' ∉ line := by
    intro line inside
    obtain ⟨file, member, rfl⟩ := List.mem_map.mp inside
    exact (plain file member).2
  have back : ∀ file ∈ scope.files, Path.mk (String.ofList file.text.toList) = file := by
    intro file member
    rw [String.ofList_toList, (plain file member).1.mk_text]
  rw [listed, manifest, String.toList_ofList, Text.pieces_joinWith some' plain', List.map_map]
  exact (List.map_congr_left back).trans (List.map_id' _)

/-- A text lists the files of a scope: its lines are those of the files, and they are the files
where each of them is a text without newlines. -/
structure IsList (scope : Scope) (text : String) : Prop where
  lines : scope.files ≠ [] → Text.pieces '\n' text.toList =
    scope.files.flatMap fun file => Text.pieces '\n' file.text.toList
  files : scope.files ≠ [] → (∀ file ∈ scope.files, file.IsLine) → listed text = scope.files

theorem isList_manifest (scope : Scope) : scope.IsList scope.manifest :=
  ⟨pieces_manifest, listed_manifest⟩

end CallAtlas.Scope
