import CallAtlas.Text.Piece
import CallAtlas.Text.Utf8
import CallAtlas.Ordered.Basic

set_option autoImplicit false
set_option relaxedAutoImplicit false

/-!
Paths of files and directories.  A path is a sequence of bytes, which need not be a text; what it
names is the list of its segments.  Repeated slashes, slashes at the end and inner segments `.` name
nothing, so several spellings share their segments; only a leading `.` counts.
-/

namespace CallAtlas

structure Path where
  ofBytes ::
  bytes : List UInt8
  deriving DecidableEq, Inhabited

instance coeBytes : Coe String (List UInt8) := ⟨Text.encode⟩

namespace Path

abbrev mk (text : String) : Path := ⟨text⟩

/-- The text that is shown for a path: bytes that are no text show as replacement characters. -/
def text (path : Path) : String := Text.decodeLossy path.bytes

def IsText (path : Path) : Prop := Text.encode path.text = path.bytes

instance (path : Path) : Decidable path.IsText := inferInstanceAs (Decidable (_ = _))

abbrev slash : UInt8 := 0x2F

@[match_pattern] abbrev dot : UInt8 := 0x2E

inductive Segment
  | root
  | here
  | up
  | name (bytes : List UInt8)
  deriving DecidableEq

namespace Segment

def rank : Segment → Nat
  | .root => 0
  | .here => 1
  | .up => 2
  | .name _ => 3

def label : Segment → List UInt8
  | .name bytes => bytes
  | _ => []

theorem eq_of_rank_eq {a b : Segment} (h : a.rank = b.rank) (k : a.label = b.label) : a = b := by
  cases a <;> cases b <;> simp_all [rank, label]

instance : KeyOrder Segment where
  below a b := a.rank < b.rank || (a.rank = b.rank && KeyOrder.below a.label b.label)
  irrefl a := by simp [KeyOrder.irrefl]
  trans {a b c} := by
    simp only [Bool.or_eq_true, Bool.and_eq_true, decide_eq_true_eq]
    rintro (first | ⟨same, first⟩) (second | ⟨same', second⟩)
    · exact .inl (Nat.lt_trans first second)
    · exact .inl (same' ▸ first)
    · exact .inl (same ▸ second)
    · exact .inr ⟨same.trans same', KeyOrder.trans first second⟩
  total a b := by
    simp only [Bool.or_eq_true, Bool.and_eq_true, decide_eq_true_eq]
    rcases Nat.lt_trichotomy a.rank b.rank with first | same | second
    · exact .inl (.inl first)
    · rcases KeyOrder.total a.label b.label with first | same' | second
      · exact .inl (.inr ⟨same, first⟩)
      · exact .inr (.inl (eq_of_rank_eq same same'))
      · exact .inr (.inr (.inr ⟨same.symm, second⟩))
    · exact .inr (.inr (.inl second))

end Segment

/-- Where a path starts: at the root, at a written `.`, or at neither. -/
inductive Anchor
  | root
  | here
  | unwritten
  deriving DecidableEq

def Anchor.segments : Anchor → List Segment
  | .root => [.root]
  | .here => [.here]
  | .unwritten => []

def isIdle (piece : List UInt8) : Bool := piece = [] || piece = [dot]

def segmentOf? (piece : List UInt8) : Option Segment :=
  if isIdle piece then none
  else if piece = [dot, dot] then some .up
  else some (.name piece)

def cut (path : Path) : Anchor × List (List UInt8) :=
  match Text.pieces slash path.bytes with
  | [] => (.unwritten, [])
  | [[]] => (.unwritten, [])
  | [] :: rest => (.root, rest)
  | [dot] :: rest => (.here, rest)
  | pieces => (.unwritten, pieces)

def segments (path : Path) : List Segment :=
  path.cut.1.segments ++ path.cut.2.filterMap segmentOf?

/-- Two spellings of the same path. -/
def Same (p q : Path) : Prop := p.segments = q.segments

instance (p q : Path) : Decidable (p.Same q) := inferInstanceAs (Decidable (_ = _))

theorem Same.refl (p : Path) : p.Same p := rfl

theorem Same.symm {p q : Path} (h : p.Same q) : q.Same p := Eq.symm h

theorem Same.trans {p q r : Path} (h : p.Same q) (k : q.Same r) : p.Same r := Eq.trans h k

def isAbsolute (path : Path) : Bool := path.bytes.head? = some slash

/-- A path taken from a directory: one slash stands between them, and an absolute path stays as
it is. -/
def join (directory : Path) (path : Path) : Path :=
  if path.isAbsolute then path
  else if directory.bytes = [] ∨ directory.bytes.getLast? = some slash then
    ⟨directory.bytes ++ path.bytes⟩
  else ⟨directory.bytes ++ slash :: path.bytes⟩

theorem join_eq_of_last {directory path : Path} (relative : path.isAbsolute = false)
    (closed : directory.bytes.getLast? = some slash) :
    directory.join path = ⟨directory.bytes ++ path.bytes⟩ := by
  rw [join, if_neg (by simp [relative]), if_pos (.inr closed)]

theorem join_eq_of_open {directory path : Path} (relative : path.isAbsolute = false)
    (some : directory.bytes ≠ []) (unclosed : directory.bytes.getLast? ≠ Option.some slash) :
    directory.join path = ⟨directory.bytes ++ slash :: path.bytes⟩ := by
  rw [join, if_neg (by simp [relative]), if_neg (not_or.mpr ⟨some, unclosed⟩)]

def fileName (path : Path) : String :=
  match path.segments.getLast? with
  | some (.name bytes) => Text.decodeLossy bytes
  | _ => ""

end Path

end CallAtlas
