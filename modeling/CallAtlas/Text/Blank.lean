set_option autoImplicit false
set_option relaxedAutoImplicit false

/-!
Blanks: the characters with the Unicode property `White_Space`, trimming them from both ends of
a text, and cutting a text into its fields.  A field is a maximal run of characters that are no
blanks, so fields are never empty and hold no blank.
-/

namespace CallAtlas.Text

/-- The ranges of the Unicode property `White_Space`, first and last code point of each. -/
def blankRanges : List (Nat × Nat) :=
  [(0x09, 0x0D), (0x20, 0x20), (0x85, 0x85), (0xA0, 0xA0), (0x1680, 0x1680), (0x2000, 0x200A),
    (0x2028, 0x2029), (0x202F, 0x202F), (0x205F, 0x205F), (0x3000, 0x3000)]

def isBlank (c : Char) : Bool :=
  blankRanges.any fun range => range.1 ≤ c.toNat && c.toNat ≤ range.2

def trimStart (text : List Char) : List Char := text.dropWhile isBlank

def trimEnd (text : List Char) : List Char := (text.reverse.dropWhile isBlank).reverse

def trim (text : List Char) : List Char := trimEnd (trimStart text)

/-- The maximal runs of characters that are no blanks, from left to right. -/
def fields : List Char → List (List Char)
  | [] => []
  | c :: rest =>
    if isBlank c then fields rest
    else
      match rest with
      | [] => [[c]]
      | d :: _ =>
        if isBlank d then [c] :: fields rest
        else
          match fields rest with
          | [] => [[c]]
          | run :: runs => (c :: run) :: runs

theorem isBlank_of_isDigit {c : Char} (h : c.isDigit = true) : isBlank c = false := by
  have range := Char.isDigit_iff_toNat.mp h
  have zero : '0'.toNat = 48 := rfl
  have nine : '9'.toNat = 57 := rfl
  apply Bool.eq_false_iff.mpr
  simp only [isBlank, blankRanges, List.any_cons, List.any_nil, Bool.or_false, ne_eq,
    Bool.or_eq_true, Bool.and_eq_true, decide_eq_true_eq]
  omega

theorem dropWhile_of_solid {text : List Char} (solid : ∀ c ∈ text, isBlank c = false) :
    text.dropWhile isBlank = text := by
  cases text with
  | nil => rfl
  | cons c rest => rw [List.dropWhile_cons_of_neg (by simp [solid c List.mem_cons_self])]

theorem trim_of_solid {text : List Char} (solid : ∀ c ∈ text, isBlank c = false) :
    trim text = text := by
  rw [trim, trimStart, dropWhile_of_solid solid, trimEnd, dropWhile_of_solid (by simpa using solid),
    List.reverse_reverse]

theorem trim_between {before text after : List Char} (ahead : ∀ c ∈ before, isBlank c = true)
    (behind : ∀ c ∈ after, isBlank c = true) (solid : ∀ c ∈ text, isBlank c = false)
    (some : text ≠ []) : trim (before ++ (text ++ after)) = text := by
  have start : (text ++ after).dropWhile isBlank = text ++ after := by
    obtain ⟨c, rest, rfl⟩ := List.exists_cons_of_ne_nil some
    exact List.dropWhile_cons_of_neg (by simp [solid c List.mem_cons_self])
  rw [trim, trimStart, List.dropWhile_append_of_pos ahead, start, trimEnd, List.reverse_append,
    List.dropWhile_append_of_pos (by simpa using behind), dropWhile_of_solid (by simpa using solid),
    List.reverse_reverse]

@[simp] theorem fields_nil : fields [] = [] := rfl

theorem fields_cons_blank {c : Char} (h : isBlank c = true) (rest : List Char) :
    fields (c :: rest) = fields rest := by
  simp [fields, h]

theorem fields_proper (text : List Char) :
    ∀ run ∈ fields text, run ≠ [] ∧ ∀ c ∈ run, isBlank c = false := by
  induction text with
  | nil => simp
  | cons c rest ih =>
    unfold fields
    split
    · exact ih
    · rename_i solid
      have solid : isBlank c = false := by simpa using solid
      cases rest with
      | nil => simp [solid]
      | cons d tail =>
        dsimp only
        split
        · intro run member
          rcases List.mem_cons.mp member with rfl | member
          · simp [solid]
          · exact ih run member
        · split
          · simp [solid]
          · rename_i first others equal
            intro run member
            rcases List.mem_cons.mp member with rfl | member
            · have old := ih first (by rw [equal]; exact List.mem_cons_self)
              refine ⟨by simp, ?_⟩
              intro e inside
              rcases List.mem_cons.mp inside with rfl | inside
              · exact solid
              · exact old.2 e inside
            · exact ih run (by rw [equal]; exact List.mem_cons_of_mem _ member)

end CallAtlas.Text
