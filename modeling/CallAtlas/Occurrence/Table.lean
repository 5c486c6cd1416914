import CallAtlas.Ordered.Tally

set_option autoImplicit false
set_option relaxedAutoImplicit false

namespace CallAtlas.Occurrence

/-- A function of a file, or the file's own scope. -/
structure Key where
  file : String
  function : String
  deriving DecidableEq

namespace Key

/-- The name that stands for the lines outside of every function. -/
def globalScope : String := "<global>"

def isGlobal (key : Key) : Bool := key.function = globalScope

instance : KeyOrder Key where
  below a b :=
    KeyOrder.below a.file b.file ||
      (a.file = b.file && KeyOrder.below a.function b.function)
  irrefl a := by simp [KeyOrder.irrefl]
  trans {a b c} := by
    simp only [Bool.or_eq_true, Bool.and_eq_true, decide_eq_true_eq]
    rintro (first | ⟨same, first⟩) (second | ⟨same', second⟩)
    · exact .inl (KeyOrder.trans first second)
    · exact .inl (same' ▸ first)
    · exact .inl (same ▸ second)
    · exact .inr ⟨same.trans same', KeyOrder.trans first second⟩
  total a b := by
    simp only [Bool.or_eq_true, Bool.and_eq_true, decide_eq_true_eq]
    rcases KeyOrder.total a.file b.file with first | same | second
    · exact .inl (.inl first)
    · rcases KeyOrder.total a.function b.function with first | same' | second
      · exact .inl (.inr ⟨same, first⟩)
      · obtain ⟨file, function⟩ := a
        obtain ⟨file', function'⟩ := b
        exact .inr (.inl (by simp_all))
      · exact .inr (.inr (.inr ⟨same.symm, second⟩))
    · exact .inr (.inr (.inl second))

end Key

abbrev Table := Tally Key

def Table.record (table : Table) (key : Key) : Table := table.add key 1

def Table.ofKeys (keys : List Key) : Table := keys.foldl Table.record Tally.empty

end CallAtlas.Occurrence
