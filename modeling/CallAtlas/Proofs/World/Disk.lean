import CallAtlas.Proofs.Path
import CallAtlas.World.Disk

set_option autoImplicit false
set_option relaxedAutoImplicit false

namespace CallAtlas.Disk

/-! What stands where. -/

variable {disk bigger : Disk} {location other : Location} {node : Node}

theorem lookup_filter_of_pos {keep : Location → Bool} (kept : keep location = true)
    (entries : List (Location × Node)) :
    (entries.filter fun entry => keep entry.1).lookup location = entries.lookup location := by
  induction entries with
  | nil => rfl
  | cons entry rest ih =>
    obtain ⟨place, node⟩ := entry
    rw [List.filter_cons]
    by_cases same : location = place
    · subst same
      rw [if_pos kept, List.lookup_cons_self, List.lookup_cons_self]
    · have apart : (location == place) = false := beq_eq_false_iff_ne.mpr same
      split
      · rw [List.lookup_cons, List.lookup_cons, apart, ih]
      · rw [List.lookup_cons, apart, ih]

theorem node?_put_self (some : location ≠ []) :
    (disk.put location node).node? location = Option.some node := by
  rw [node?, if_neg some, put, List.lookup_cons_self]

theorem node?_put_of_ne (apart : other ≠ location) :
    (disk.put location node).node? other = disk.node? other := by
  have kept : decide (other ≠ location) = true := decide_eq_true apart
  have found := @lookup_filter_of_pos other (fun place => decide (place ≠ location)) kept
    disk.entries
  have skipped : (other == location) = false := beq_eq_false_iff_ne.mpr apart
  unfold node? put
  rw [List.lookup_cons, skipped]
  dsimp only
  rw [found]

/-- All that stands on a disk stands on a bigger one, where there may be more. -/
def Within (disk bigger : Disk) : Prop :=
  ∀ location node, disk.node? location = some node → bigger.node? location = some node

theorem within_put (free : disk.node? location = none) : disk.Within (disk.put location node) := by
  intro other old stands
  have apart : other ≠ location := by
    rintro rfl
    rw [free] at stands
    cases stands
  rw [node?_put_of_ne apart, stands]

theorem remove_put (below : location <+: other) :
    (disk.put other node).remove location = disk.remove location := by
  have gone : location.isPrefixOf other = true := List.isPrefixOf_iff_prefix.mpr below
  unfold remove put
  congr 1
  rw [List.filter_cons_of_neg (by simp [gone]), List.filter_filter]
  apply List.filter_congr
  rintro ⟨place, old⟩ -
  by_cases same : place = other
  · simp [same, gone]
  · simp [same]

theorem remove_of_free (free : ∀ entry ∈ disk.entries, ¬location <+: entry.1) :
    disk.remove location = disk := by
  have kept : (disk.entries.filter fun entry => !location.isPrefixOf entry.1) = disk.entries := by
    rw [List.filter_eq_self]
    intro entry inside
    have apart : ¬location.isPrefixOf entry.1 = true := fun prefixed =>
      free entry inside (List.isPrefixOf_iff_prefix.mp prefixed)
    simp [apart]
  rw [remove, kept]

/-! Ways to directories. -/

def linkStart (target : String) (here : Location) : Location :=
  if (Path.mk target).isAbsolute then [] else here

/-- Steps lead from a place through directories, all links followed.  The numbers say how many more
links may be followed. -/
inductive Leads (disk : Disk) : Nat → Location → List Step → Nat → Location → Prop
  | arrived (links : Nat) (here : Location) : Leads disk links here [] links here
  | stay {links left : Nat} {here there : Location} {rest : List Step}
      (inside : disk.node? here = some .directory) (further : Leads disk links here rest left there) :
      Leads disk links here (.stay :: rest) left there
  | up {links left : Nat} {here there : Location} {rest : List Step}
      (inside : disk.node? here = some .directory)
      (further : Leads disk links here.dropLast rest left there) :
      Leads disk links here (.up :: rest) left there
  | down {links left : Nat} {here there : Location} {name : String} {rest : List Step}
      (inside : disk.node? here = some .directory) (short : ¬nameMax < name.utf8ByteSize)
      (stands : disk.node? (here ++ [name]) = some .directory)
      (further : Leads disk links (here ++ [name]) rest left there) :
      Leads disk links here (.down name :: rest) left there
  | follow {links left : Nat} {here there : Location} {name target : String} {rest : List Step}
      (inside : disk.node? here = some .directory) (short : ¬nameMax < name.utf8ByteSize)
      (stands : disk.node? (here ++ [name]) = some (.link target))
      (further : Leads disk links (linkStart target here) (steps target ++ rest) left there) :
      Leads disk (links + 1) here (.down name :: rest) left there

theorem Leads.within {links left : Nat} {here there : Location} {way : List Step}
    (leads : disk.Leads links here way left there) (more : disk.Within bigger) :
    bigger.Leads links here way left there := by
  induction leads with
  | arrived links here => exact .arrived links here
  | stay inside further ih => exact .stay (more _ _ inside) ih
  | up inside further ih => exact .up (more _ _ inside) ih
  | down inside short stands further ih => exact .down (more _ _ inside) short (more _ _ stands) ih
  | follow inside short stands further ih =>
    exact .follow (more _ _ inside) short (more _ _ stands) ih

section Walks

variable {flag : Bool} {links : Nat} {here : Location} {rest : List Step} {name target : String}

theorem walk_nil : disk.walk flag links here [] = .ok ⟨here, disk.node? here⟩ := by
  cases links <;> rfl

theorem inside_of_walk {step : Step} {arrival : Arrival}
    (arrives : disk.walk flag links here (step :: rest) = .ok arrival) :
    disk.node? here = some .directory := by
  cases stands : disk.node? here with
  | none => cases links <;> simp [walk, walkWith, stands] at arrives
  | some node =>
    cases node with
    | directory => rfl
    | file text => cases links <;> simp [walk, walkWith, stands] at arrives
    | program => cases links <;> simp [walk, walkWith, stands] at arrives
    | link target => cases links <;> simp [walk, walkWith, stands] at arrives

theorem directory_of_walk {way : List Step} {there : Location}
    (arrives : disk.walk flag links here way = .ok ⟨there, some .directory⟩) :
    disk.node? here = some .directory := by
  cases way with
  | nil =>
    rw [walk_nil] at arrives
    obtain ⟨-, stands⟩ := by simpa using arrives
    exact stands
  | cons step rest => exact inside_of_walk arrives

theorem walk_stay (inside : disk.node? here = some .directory) :
    disk.walk flag links here (.stay :: rest) = disk.walk flag links here rest := by
  cases links <;> simp only [walk, walkWith, inside]

theorem walk_up (inside : disk.node? here = some .directory) :
    disk.walk flag links here (.up :: rest) = disk.walk flag links here.dropLast rest := by
  cases links <;> simp only [walk, walkWith, inside]

theorem walk_long (inside : disk.node? here = some .directory)
    (long : nameMax < name.utf8ByteSize) :
    disk.walk flag links here (.down name :: rest) = .error .nameTooLong := by
  cases links <;> simp only [walk, walkWith, inside, if_pos long]

theorem walk_missing (inside : disk.node? here = some .directory)
    (short : ¬nameMax < name.utf8ByteSize) (free : disk.node? (here ++ [name]) = none) :
    disk.walk flag links here (.down name :: rest) =
      if rest.isEmpty then .ok ⟨here ++ [name], none⟩ else .error .notFound := by
  cases links <;> simp only [walk, walkWith, inside, if_neg short, free]

theorem walk_down (inside : disk.node? here = some .directory)
    (short : ¬nameMax < name.utf8ByteSize) (stands : disk.node? (here ++ [name]) = some node)
    (solid : ∀ target, node ≠ .link target) :
    disk.walk flag links here (.down name :: rest) = disk.walk flag links (here ++ [name]) rest := by
  cases node with
  | link target => exact absurd rfl (solid target)
  | directory => cases links <;> simp only [walk, walkWith, inside, if_neg short, stands]
  | file text => cases links <;> simp only [walk, walkWith, inside, if_neg short, stands]
  | program => cases links <;> simp only [walk, walkWith, inside, if_neg short, stands]

theorem walk_link (inside : disk.node? here = some .directory)
    (short : ¬nameMax < name.utf8ByteSize)
    (stands : disk.node? (here ++ [name]) = some (.link target))
    (followed : (rest.isEmpty && !flag) = false) :
    disk.walk flag links here (.down name :: rest) =
      match links with
      | 0 => .error .linkLoop
      | links + 1 => disk.walk flag links (linkStart target here) (steps target ++ rest) := by
  cases links <;> simp [walk, walkWith, inside, if_neg short, stands, followed, linkStart]

end Walks

/-- Nothing, or a step that stays: what may stand between a directory's path and a name in it. -/
def IsIdleEnd (tail : List Step) : Prop := tail = [] ∨ tail = [.stay]

/-- A walk that ends in a directory followed all links. -/
theorem leads_of_walk {links : Nat} {here there : Location} {way tail : List Step}
    (idle : IsIdleEnd tail)
    (arrives : disk.walk true links here (way ++ tail) = .ok ⟨there, some .directory⟩) :
    ∃ left, disk.Leads links here way left there ∧ disk.node? there = some .directory := by
  -- Links first: the target of a link is a way of its own, with one link less to follow.
  induction links using Nat.strongRecOn generalizing here way with
  | ind links fewer =>
    induction way generalizing here with
    | nil =>
      have arrived : disk.walk true links here tail = .ok ⟨here, disk.node? here⟩ := by
        rcases idle with rfl | rfl
        · exact walk_nil
        · rw [walk_stay (inside_of_walk arrives), walk_nil]
      obtain ⟨rfl, stands⟩ := by
        simpa using arrived.symm.trans arrives
      exact ⟨links, .arrived links here, stands⟩
    | cons step rest ih =>
      rw [List.cons_append] at arrives
      have inside := inside_of_walk arrives
      cases step with
      | stay =>
        rw [walk_stay inside] at arrives
        obtain ⟨left, leads, stands⟩ := ih arrives
        exact ⟨left, .stay inside leads, stands⟩
      | up =>
        rw [walk_up inside] at arrives
        obtain ⟨left, leads, stands⟩ := ih arrives
        exact ⟨left, .up inside leads, stands⟩
      | down name =>
        have short : ¬nameMax < name.utf8ByteSize := by
          intro long
          rw [walk_long inside long] at arrives
          cases arrives
        cases stands : disk.node? (here ++ [name]) with
        | none =>
          rw [walk_missing inside short stands] at arrives
          split at arrives <;> simp at arrives
        | some node =>
          by_cases linked : ∃ target, node = .link target
          · obtain ⟨target, rfl⟩ := linked
            rw [walk_link inside short stands (by simp)] at arrives
            cases links with
            | zero => cases arrives
            | succ links =>
              dsimp only at arrives
              rw [← List.append_assoc] at arrives
              obtain ⟨left, leads, ends⟩ := fewer links (Nat.lt_succ_self links) arrives
              exact ⟨left, .follow inside short stands leads, ends⟩
          · have solid (target : String) : node ≠ .link target := fun same =>
              linked ⟨target, same⟩
            rw [walk_down inside short stands solid] at arrives
            obtain ⟨left, leads, ends⟩ := ih arrives
            exact ⟨left, .down inside short (directory_of_walk arrives) leads, ends⟩

theorem walk_of_leads {flag : Bool} {links left : Nat} {here there : Location}
    {way rest : List Step} (leads : disk.Leads links here way left there)
    (onward : rest ≠ [] ∨ flag = true) :
    disk.walk flag links here (way ++ rest) = disk.walk flag left there rest := by
  induction leads with
  | arrived links here => rfl
  | stay inside further ih => rw [List.cons_append, walk_stay inside, ih]
  | up inside further ih => rw [List.cons_append, walk_up inside, ih]
  | down inside short stands further ih =>
    rw [List.cons_append, walk_down inside short stands (fun _ => Node.noConfusion), ih]
  | @follow links left here there name target others inside short stands further ih =>
    have followed : ((others ++ rest).isEmpty && !flag) = false := by
      rcases onward with some | rfl
      · simp [some]
      · simp
    rw [List.cons_append, walk_link inside short stands followed]
    dsimp only
    rw [← List.append_assoc, ih]

/-! Paths to directories. -/

/-- A name that a place in a directory can have. -/
def IsName (name : String) : Prop :=
  name.toList ≠ [] ∧ '/' ∉ name.toList ∧ '\x00' ∉ name.toList ∧ name.toList ≠ ['.'] ∧
    name.toList ≠ ['.', '.']

instance (name : String) : Decidable (IsName name) :=
  inferInstanceAs (Decidable (_ ∧ _ ∧ _ ∧ _ ∧ _))

section Names

variable {directory : Path} {name : String}

theorem ofPiece_of_isName (proper : IsName name) : Step.ofPiece name.toList = .down name := by
  obtain ⟨some, -, -, noDot, noDots⟩ := proper
  rw [Step.ofPiece, if_neg (not_or.mpr ⟨some, noDot⟩), if_neg noDots, String.ofList_toList]

theorem not_isAbsolute_of_isName (proper : IsName name) : (Path.mk name).isAbsolute = false := by
  rw [Bool.eq_false_iff, ne_eq, Path.isAbsolute_iff_text, Path.text_mk]
  exact fun first => proper.2.1 (List.mem_of_head? first)

theorem text_join (proper : IsName name) (some : directory.text ≠ "") :
    (directory.join ⟨name⟩).text =
      if directory.text.toList.getLast? = Option.some '/' then directory.text ++ name
      else directory.text ++ "/" ++ name := by
  have relative := not_isAbsolute_of_isName proper
  have shown : (Path.mk name).text = name := Path.text_mk name
  rw [← String.toList_inj]
  split
  · rename_i closed
    rw [Path.toList_join_of_last relative closed, shown, String.toList_append]
  · rename_i unclosed
    rw [Path.toList_join_of_open relative some unclosed, shown]
    simp

theorem steps_join (proper : IsName name) (some : directory.text ≠ "") :
    ∃ way tail, IsIdleEnd tail ∧ steps directory.text = way ++ tail ∧
      steps (directory.join ⟨name⟩).text = way ++ [.down name] := by
  have last : (Text.pieces '/' name.toList).map Step.ofPiece = [.down name] := by
    rw [Text.pieces_of_notMem proper.2.1, List.map_singleton, ofPiece_of_isName proper]
  rw [text_join proper some]
  split
  · rename_i closed
    obtain ⟨text, spelled⟩ := List.getLast?_eq_some_iff.mp closed
    refine ⟨(Text.pieces '/' text).map Step.ofPiece, [.stay], .inr rfl, ?_, ?_⟩
    · rw [steps, spelled, Text.pieces_append_cons, List.map_append]
      rfl
    · rw [steps, String.toList_append, spelled, List.append_assoc, List.singleton_append,
        Text.pieces_append_cons, List.map_append, last]
  · refine ⟨steps directory.text, [], .inl rfl, (List.append_nil _).symm, ?_⟩
    have spelled : (directory.text ++ "/" ++ name).toList =
        directory.text.toList ++ '/' :: name.toList := by simp
    rw [steps, spelled, Text.pieces_append_cons, List.map_append, last, steps]

theorem toList_join (proper : IsName name) (some : directory.text ≠ "") :
    ∃ gap, (gap = [] ∨ gap = ['/']) ∧
      (directory.join ⟨name⟩).text.toList = directory.text.toList ++ gap ++ name.toList := by
  rw [text_join proper some]
  split
  · exact ⟨[], .inl rfl, by simp⟩
  · exact ⟨['/'], .inr rfl, by simp⟩

theorem isText_join (whole : directory.IsText) (name : String) :
    (directory.join ⟨name⟩).IsText := Path.isText_join whole (Path.isText_mk name)

theorem isAbsolute_join (proper : IsName name)
    (some : directory.text ≠ "") :
    (directory.join ⟨name⟩).isAbsolute = directory.isAbsolute := by
  obtain ⟨gap, -, spelled⟩ := toList_join proper some
  have some : directory.text.toList ≠ [] := by simpa using some
  rw [Bool.eq_iff_iff, Path.isAbsolute_iff_text, Path.isAbsolute_iff_text, spelled,
    List.append_assoc, List.head?_append, List.head?_eq_some_head some, Option.some_or]

theorem holdsNul_join (proper : IsName name)
    (some : directory.text ≠ "") :
    holdsNul (directory.join ⟨name⟩).text = holdsNul directory.text := by
  obtain ⟨gap, rfl | rfl, spelled⟩ := toList_join proper some <;>
    simp [holdsNul, spelled, proper.2.2.1]

theorem getLast?_join (proper : IsName name)
    (some : directory.text ≠ "") :
    (directory.join ⟨name⟩).text.toList.getLast? = name.toList.getLast? := by
  obtain ⟨gap, -, spelled⟩ := toList_join proper some
  rw [spelled, List.getLast?_append, List.getLast?_eq_some_getLast proper.1, Option.some_or]

theorem join_ne_empty (proper : IsName name)
    (some : directory.text ≠ "") : (directory.join ⟨name⟩).text ≠ "" := by
  intro empty
  have last := getLast?_join proper some
  rw [empty, List.getLast?_eq_some_getLast proper.1] at last
  cases last

/-- A name in a directory that is too long to be reached there. -/
def TooLong (directory : Path) (name : String) : Prop :=
  pathMax < (directory.join ⟨name⟩).text.utf8ByteSize ∨ nameMax < name.utf8ByteSize

instance (directory : Path) (name : String) : Decidable (TooLong directory name) :=
  inferInstanceAs (Decidable (_ ∨ _))

end Names

section Directories

variable {directory : Path} {workdir there : Location} {name : String}

theorem walk_of_lookup (found : disk.lookup workdir directory = .ok (there, .directory)) :
    holdsNul directory.text = false ∧ directory.text ≠ "" ∧ directory.IsText ∧
      ¬pathMax < directory.text.utf8ByteSize ∧
      disk.walk true linksMax (if directory.isAbsolute then [] else workdir)
        (steps directory.text) = .ok ⟨there, some .directory⟩ := by
  have arrived : disk.arrive true workdir directory = .ok ⟨there, some .directory⟩ := by
    unfold lookup at found
    split at found
    · cases found
    · cases found
    · rename_i arrival
      cases found
      exact arrival
  unfold arrive at arrived
  split at arrived
  · cases arrived
  · rename_i clean
    split at arrived
    · cases arrived
    · rename_i some
      split at arrived
      · cases arrived
      · rename_i whole
        split at arrived
        · cases arrived
        · rename_i short
          exact ⟨by simpa using clean, some, Decidable.not_not.mp whole, short, arrived⟩

theorem lookup_of_walk (clean : holdsNul directory.text = false) (some : directory.text ≠ "")
    (whole : directory.IsText) (short : ¬pathMax < directory.text.utf8ByteSize)
    (walked : disk.walk true linksMax (if directory.isAbsolute then [] else workdir)
      (steps directory.text) = .ok ⟨there, Option.some .directory⟩) :
    disk.lookup workdir directory = .ok (there, .directory) := by
  unfold lookup arrive
  rw [if_neg (by simp [clean]), if_neg some, if_neg (not_not_intro whole), if_neg short, walked]

theorem lookup_within (found : disk.lookup workdir directory = .ok (there, .directory))
    (more : disk.Within bigger) : bigger.lookup workdir directory = .ok (there, .directory) := by
  obtain ⟨clean, some, whole, short, walked⟩ := walk_of_lookup found
  rw [← List.append_nil (steps directory.text)] at walked
  obtain ⟨left, leads, inside⟩ := leads_of_walk (.inl rfl) walked
  apply lookup_of_walk clean some whole short
  rw [← List.append_nil (steps directory.text), walk_of_leads (leads.within more) (.inr rfl),
    walk_nil, more _ _ inside]

theorem walk_name {flag : Bool} {links : Nat} (inside : disk.node? there = some .directory)
    (solid : ∀ target, disk.node? (there ++ [name]) ≠ some (.link target)) :
    disk.walk flag links there [.down name] =
      if nameMax < name.utf8ByteSize then .error .nameTooLong
      else .ok ⟨there ++ [name], disk.node? (there ++ [name])⟩ := by
  split
  · rename_i long
    exact walk_long inside long
  · rename_i short
    cases stands : disk.node? (there ++ [name]) with
    | none => exact walk_missing inside short stands
    | some node =>
      have solid (target : String) : node ≠ .link target := fun same =>
        solid target (stands.trans (congrArg some same))
      rw [walk_down inside short stands solid, walk_nil, stands]

/-- The path to a name in a directory leads to the name's place in it, unless a link stands
there. -/
theorem arrive_join (found : disk.lookup workdir directory = .ok (there, .directory))
    (proper : IsName name) (flag : Bool)
    (solid : ∀ target, disk.node? (there ++ [name]) ≠ some (.link target)) :
    disk.arrive flag workdir (directory.join ⟨name⟩) =
      if TooLong directory name then .error .nameTooLong
      else .ok ⟨there ++ [name], disk.node? (there ++ [name])⟩ := by
  obtain ⟨clean, some, whole, -, walked⟩ := walk_of_lookup found
  obtain ⟨way, tail, idle, spelled, joined⟩ := steps_join proper some
  rw [spelled] at walked
  obtain ⟨left, leads, inside⟩ := leads_of_walk idle walked
  have onward : disk.walk flag linksMax (if directory.isAbsolute then [] else workdir)
      (way ++ [.down name]) = disk.walk flag left there [.down name] :=
    walk_of_leads leads (.inl (by simp))
  unfold arrive
  rw [holdsNul_join proper some, clean, isAbsolute_join proper some, joined, onward,
    walk_name inside solid, if_neg Bool.false_ne_true, if_neg (join_ne_empty proper some),
    if_neg (not_not_intro (isText_join whole name))]
  by_cases long : pathMax < (directory.join ⟨name⟩).text.utf8ByteSize
  · rw [if_pos long, if_pos (.inl long)]
  · have only : TooLong directory name ↔ nameMax < name.utf8ByteSize :=
      ⟨fun either => either.resolve_left long, .inr⟩
    simp only [if_neg long, only]

theorem lookup_join (found : disk.lookup workdir directory = .ok (there, .directory))
    (proper : IsName name) (short : ¬TooLong directory name)
    (stands : disk.node? (there ++ [name]) = some .directory) :
    disk.lookup workdir (directory.join ⟨name⟩) = .ok (there ++ [name], .directory) := by
  have arrival := arrive_join found proper true (by simp [stands])
  unfold lookup
  rw [arrival, if_neg short, stands]

theorem withoutSlashes_of_open {path : Path} (filled : path.bytes ≠ [])
    (unclosed : path.bytes.getLast? ≠ some Path.slash) : withoutSlashes path = path := by
  obtain ⟨last, rest, reversed⟩ := List.exists_cons_of_ne_nil (mt List.reverse_eq_nil_iff.mp filled)
  have other : last ≠ Path.slash := by
    rintro rfl
    apply unclosed
    rw [← List.head?_reverse, reversed]
    rfl
  have kept : path.bytes.reverse.dropWhile (· = Path.slash) = path.bytes.reverse := by
    rw [reversed, List.dropWhile_cons_of_neg (by simpa using other)]
  unfold withoutSlashes
  rw [kept, reversed]
  dsimp only
  rw [← reversed, List.reverse_reverse]

theorem withoutSlashes_join (proper : IsName name) (some : directory.text ≠ "") :
    withoutSlashes (directory.join ⟨name⟩) = directory.join ⟨name⟩ := by
  refine withoutSlashes_of_open (mt Path.text_eq_empty_iff.mpr (join_ne_empty proper some)) ?_
  rw [ne_eq, ← Path.getLast?_text, getLast?_join proper some]
  exact fun slash => proper.2.1 (List.mem_of_getLast? slash)

theorem makeDirectory_join (found : disk.lookup workdir directory = .ok (there, .directory))
    (proper : IsName name) (free : disk.node? (there ++ [name]) = none) :
    disk.makeDirectory workdir (directory.join ⟨name⟩) =
      if TooLong directory name then .error .nameTooLong
      else .ok (disk.put (there ++ [name]) .directory) := by
  have arrival := arrive_join found proper false (by simp [free])
  obtain ⟨-, some, -⟩ := walk_of_lookup found
  unfold makeDirectory
  rw [withoutSlashes_join proper some, arrival, free]
  by_cases long : TooLong directory name
  · rw [if_pos long, if_pos long]
  · rw [if_neg long, if_neg long]

theorem write_join (found : disk.lookup workdir directory = .ok (there, .directory))
    (proper : IsName name) (free : disk.node? (there ++ [name]) = none) (text : String) :
    disk.write workdir (directory.join ⟨name⟩) text =
      if TooLong directory name then .error .nameTooLong
      else .ok (disk.put (there ++ [name]) (.file text)) := by
  have arrival := arrive_join found proper true (by simp [free])
  have unclosed : (directory.join ⟨name⟩).text.toList.getLast? ≠ some '/' := by
    obtain ⟨-, filled, -⟩ := walk_of_lookup found
    rw [getLast?_join proper filled]
    exact fun slash => proper.2.1 (List.mem_of_getLast? slash)
  unfold write target
  rw [arrival, free]
  by_cases long : TooLong directory name
  · simp only [if_pos long, if_neg unclosed]
  · simp only [if_neg long]

end Directories

end CallAtlas.Disk
