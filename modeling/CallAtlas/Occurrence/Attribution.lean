import CallAtlas.Occurrence.Table
import CallAtlas.Path.Relative
import CallAtlas.Services.Basic
import CallAtlas.Span

set_option autoImplicit false
set_option relaxedAutoImplicit false

/-!
Attribution: every occurrence is charged to the first function span that contains its line, and
to the global scope of its file if there is none.
-/

namespace CallAtlas.Occurrence

variable {m : Type → Type} [Monad m]

def owner (spans : List Span) (line : Nat) : String :=
  match Span.containing? spans line with
  | some span => span.name
  | none => Key.globalScope

def charge (table : Table) (label : String) (spans : List Span) (lines : List Nat) : Table :=
  lines.foldl (fun table line => table.record ⟨label, owner spans line⟩) table

/-- Charges the occurrences of further files, asking once for the tags of each. -/
def tabulateFrom (services : Services m) (root : Path) (table : Table) :
    List FileHits → m (Except Tool.Error Table)
  | [] => pure (.ok table)
  | entry :: rest => do
    match ← services.tag entry.file with
    | .error error => pure (.error error)
    | .ok records =>
      let table := charge table (Path.label root entry.file) (Span.ofRecords records) entry.lines
      tabulateFrom services root table rest

def tabulate (services : Services m) (root : Path) (hits : Hits) :
    m (Except Tool.Error Table) :=
  tabulateFrom services root Tally.empty hits.files

end CallAtlas.Occurrence
