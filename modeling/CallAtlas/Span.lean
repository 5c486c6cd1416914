import CallAtlas.Tag.Record

set_option autoImplicit false
set_option relaxedAutoImplicit false

/-!
Function spans.  Only the starts of functions are known: a function runs to the line before the
next greater start, and the last ones are open.  Functions with one start share their span, and
the first of them owns its lines.
-/

namespace CallAtlas

/-- The lines of a function, both ends included. -/
structure Span where
  name : String
  first : Nat
  last : Nat
  deriving DecidableEq

namespace Span

/-- The end of an open span: the greatest line number there is. -/
def openEnd : Nat := Text.wordMax

def isOpen (span : Span) : Bool := span.last = openEnd

def contains (span : Span) (line : Nat) : Bool := span.first ≤ line && line ≤ span.last

/-- The end of a span that starts at a line and stands before others. -/
def lastBefore (first : Nat) : List Span → Nat
  | [] => openEnd
  | next :: _ => if first < next.first then next.first - 1 else next.last

def close : List Tag.Start → List Span
  | [] => []
  | start :: rest =>
    let spans := close rest
    ⟨start.name, start.line, lastBefore start.line spans⟩ :: spans

/-- The spans of starts in any order; equal starts keep their order. -/
def infer (starts : List Tag.Start) : List Span :=
  close (starts.mergeSort fun a b => a.line ≤ b.line)

def ofRecords (records : List Tag.Record) : List Span := infer (records.filterMap Tag.start?)

def containing? (spans : List Span) (line : Nat) : Option Span :=
  spans.find? fun span => span.contains line

end Span

end CallAtlas
