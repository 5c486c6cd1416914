import CallAtlas.Proofs.Json.Object
import CallAtlas.Tag.Record

set_option autoImplicit false
set_option relaxedAutoImplicit false

namespace CallAtlas.Tag

/-- A value that is a line number: a positive word, or a numeral of one between blanks. -/
inductive IsLine : Json → Nat → Prop
  | number {line : Nat} (positive : 0 < line) (word : line ≤ Text.wordMax) :
      IsLine (.integer line) line
  | numeral {text : String} {line : Nat} (positive : 0 < line)
      (numeral : Text.IsNumeral Text.wordMax (Text.trim text.toList) line) :
      IsLine (.string text) line

/-- The fields of a record say that a function starts. -/
structure Starts (record : Record) (start : Start) : Prop where
  tag : ∀ type, record.get? "_type" = some (.string type) → type = "tag"
  kind : record.get? "kind" = some (.string functionKind)
  name : record.get? "name" = some (.string start.name)
  named : start.name ≠ ""
  line : ∃ value, record.get? "line" = some value ∧ IsLine value start.line

/-- A record that is no tag of a function, one field of it being amiss. -/
inductive IsNoise (record : Record) : Prop
  | pseudo {type : String} (typed : record.get? "_type" = some (.string type)) (other : type ≠ "tag")
  | kind (other : record.get? "kind" ≠ some (.string functionKind))
  | nameless (missing : ∀ name, record.get? "name" = some (.string name) → name = "")
  | lineless (missing : ∀ value line, record.get? "line" = some value → ¬IsLine value line)

def Fits (record : Record) : Prop :=
  ∀ name n, record.get? name = some (.integer n) → n ≤ Text.wordMax

theorem fits_ofList {row : List Char} {members : Json.Fields} (object : Json.IsObject row members) :
    Fits (Json.Fields.ofList members) :=
  fun _ _ found => object.integer_le (Json.Fields.mem_of_get?_ofList found)

theorem isPseudo_eq_false {record : Record} : isPseudo record = false ↔
    ∀ type, record.get? "_type" = some (.string type) → type = "tag" := by
  unfold isPseudo
  split
  · rename_i type found
    simp [found]
  · rename_i missing
    simp only [true_iff]
    intro type found
    exact absurd found (missing type)

theorem isLine_iff {value : Json} {line : Nat} (fits : value = .integer line → line ≤ Text.wordMax) :
    IsLine value line ↔ lineOf? value = some line ∧ line ≠ 0 := by
  have read (text : List Char) :
      (Text.readWord text).toOption = some line ↔ Text.IsNumeral Text.wordMax text line := by
    rw [← Text.readNumeral_eq_ok, Text.readWord]
    cases Text.readNumeral Text.wordMax text with
    | error fault => simp [Except.toOption]
    | ok n => simp [Except.toOption]
  constructor
  · rintro (⟨positive, word⟩ | ⟨positive, numeral⟩)
    · exact ⟨rfl, Nat.ne_of_gt positive⟩
    · exact ⟨(read _).mpr numeral, Nat.ne_of_gt positive⟩
  · rintro ⟨found, positive⟩
    unfold lineOf? at found
    split at found
    · obtain rfl := Option.some.inj found
      exact .number (Nat.pos_of_ne_zero positive) (fits rfl)
    · exact .numeral (Nat.pos_of_ne_zero positive) ((read _).mp found)
    · cases found

theorem start?_eq_some {record : Record} (fits : Fits record) {start : Start} :
    start? record = some start ↔ Starts record start := by
  have line : (∃ value, record.get? "line" = some value ∧ IsLine value start.line) ↔
      (record.get? "line").bind lineOf? = some start.line ∧ start.line ≠ 0 := by
    rw [Option.bind_eq_some_iff, ← exists_and_right]
    refine exists_congr fun value => ?_
    rw [and_assoc]
    refine and_congr_right fun found => isLine_iff ?_
    rintro rfl
    exact Int.ofNat_le.mp (fits "line" start.line found)
  constructor
  · intro found
    unfold start? at found
    split at found
    · cases found
    · rename_i tag
      split at found
      · rename_i kind name number kinded named' numbered
        split at found
        · rename_i valid
          obtain rfl := Option.some.inj found
          obtain ⟨rfl, named, positive⟩ := valid
          exact ⟨isPseudo_eq_false.mp (by simpa using tag), kinded, named', named,
            line.mpr ⟨numbered, positive⟩⟩
        · cases found
      · cases found
  · rintro ⟨tag, kind, name, named, number⟩
    obtain ⟨numbered, positive⟩ := line.mp number
    unfold start?
    rw [isPseudo_eq_false.mpr tag, kind, name, numbered]
    simp [named, positive]

theorem not_isNoise_of_starts {record : Record} {start : Start} (starts : Starts record start) :
    ¬IsNoise record := by
  obtain ⟨value, found, line⟩ := starts.line
  rintro (⟨typed, other⟩ | other | missing | missing)
  · exact other (starts.tag _ typed)
  · exact other starts.kind
  · exact starts.named (missing _ starts.name)
  · exact missing value start.line found line

theorem exists_starts_of_not_isNoise {record : Record} (clean : ¬IsNoise record) :
    ∃ start, Starts record start := by
  have tag (type : String) (typed : record.get? "_type" = some (.string type)) : type = "tag" := by
    by_contra other
    exact clean (.pseudo typed other)
  have kind : record.get? "kind" = some (.string functionKind) := by
    by_contra other
    exact clean (.kind other)
  obtain ⟨name, found, named⟩ : ∃ name, record.get? "name" = some (.string name) ∧ name ≠ "" := by
    by_contra missing
    exact clean (.nameless fun name found => by_contra fun named => missing ⟨name, found, named⟩)
  obtain ⟨value, line, number⟩ : ∃ value line, record.get? "line" = some value ∧
      IsLine value line := by
    by_contra missing
    exact clean (.lineless fun value line found number => missing ⟨value, line, found, number⟩)
  exact ⟨⟨name, line⟩, tag, kind, found, named, value, number⟩

/-- The records that start no function are the noise. -/
theorem start?_eq_none {record : Record} (fits : Fits record) :
    start? record = none ↔ IsNoise record := by
  simp only [Option.eq_none_iff_forall_ne_some, ne_eq, start?_eq_some fits]
  constructor
  · intro none
    by_contra clean
    obtain ⟨start, starts⟩ := exists_starts_of_not_isNoise clean
    exact none start starts
  · exact fun noise start starts => not_isNoise_of_starts starts noise

end CallAtlas.Tag
