import CallAtlas.Toml.Quoted
import CallAtlas.Yaml.Basic

set_option autoImplicit false
set_option relaxedAutoImplicit false

/-!
Scalars of YAML: plain, in single or double quotes, and blocks of lines.  A line end inside a
plain or quoted scalar is folded: a single one becomes a space, and of several all but one stay.
-/

namespace CallAtlas.Yaml

def isSpace (c : Char) : Bool := c = ' ' || c = '\t'

def isGap (c : Char) : Bool := isSpace c || c = '\n'

/-- What is left of a run of blanks and line ends inside a scalar. -/
def folded (gap : List Char) : List Char :=
  match gap.count '\n' with
  | 0 => gap
  | 1 => [' ']
  | lines + 2 => List.replicate (lines + 1) '\n'

def trimEnd (text : List Char) : List Char := (text.reverse.dropWhile isSpace).reverse

/-- Reads up to a single closing quote; a quote inside is written twice. -/
def readSingle : Nat → List Char → Option (List Char × List Char)
  | 0, _ => none
  | _, [] => none
  | steps + 1, '\'' :: '\'' :: rest =>
    (readSingle steps rest).map fun (text, rest) => ('\'' :: text, rest)
  | _, '\'' :: rest => some ([], rest)
  | steps + 1, c :: rest =>
    if isGap c then
      let gap := (c :: rest).takeWhile isGap
      (readSingle steps ((c :: rest).dropWhile isGap)).map fun (text, rest) =>
        (folded gap ++ text, rest)
    else (readSingle steps rest).map fun (text, rest) => (c :: text, rest)

def readEscape? : List Char → Option (Char × List Char)
  | '0' :: rest => some ('\x00', rest)
  | 'a' :: rest => some ('\x07', rest)
  | 'b' :: rest => some ('\x08', rest)
  | 't' :: rest => some ('\t', rest)
  | '\t' :: rest => some ('\t', rest)
  | 'n' :: rest => some ('\n', rest)
  | 'v' :: rest => some ('\x0B', rest)
  | 'f' :: rest => some ('\x0C', rest)
  | 'r' :: rest => some ('\r', rest)
  | 'e' :: rest => some ('\x1B', rest)
  | ' ' :: rest => some (' ', rest)
  | '"' :: rest => some ('"', rest)
  | '/' :: rest => some ('/', rest)
  | '\\' :: rest => some ('\\', rest)
  | 'N' :: rest => some ('\u0085', rest)
  | '_' :: rest => some ('\u00A0', rest)
  | 'L' :: rest => some ('\u2028', rest)
  | 'P' :: rest => some ('\u2029', rest)
  | 'x' :: rest => Toml.readCodePoint? 2 rest
  | 'u' :: rest => Toml.readCodePoint? 4 rest
  | 'U' :: rest => Toml.readCodePoint? 8 rest
  | _ => none

def readDouble : Nat → List Char → Option (List Char × List Char)
  | 0, _ => none
  | _, [] => none
  | _, '"' :: rest => some ([], rest)
  | steps + 1, '\\' :: '\n' :: rest => readDouble steps (rest.dropWhile isSpace)
  | steps + 1, '\\' :: rest =>
    match readEscape? rest with
    | none => none
    | some (c, rest) => (readDouble steps rest).map fun (text, rest) => (c :: text, rest)
  | steps + 1, c :: rest =>
    if isGap c then
      let gap := (c :: rest).takeWhile isGap
      (readDouble steps ((c :: rest).dropWhile isGap)).map fun (text, rest) =>
        (folded gap ++ text, rest)
    else (readDouble steps rest).map fun (text, rest) => (c :: text, rest)

def readQuoted? : List Char → Option (String × List Char)
  | '\'' :: rest =>
    (readSingle (rest.length + 1) rest).map fun (text, rest) => (String.ofList text, rest)
  | '"' :: rest =>
    (readDouble (rest.length + 1) rest).map fun (text, rest) => (String.ofList text, rest)
  | _ => none

def isFlowMark (c : Char) : Bool := [',', '[', ']', '{', '}'].contains c

def endsKey (flow : Bool) : List Char → Bool
  | [] => true
  | c :: _ => isGap c || (flow && isFlowMark c)

def startsPlain (flow : Bool) : List Char → Bool
  | [] => false
  | c :: rest =>
    if c = '-' ∨ c = '?' ∨ c = ':' then !endsKey flow rest
    else !(isGap c || isFlowMark c ||
      ['#', '&', '*', '!', '|', '>', '\'', '"', '%', '@', '\x60'].contains c)

/-- The part of a plain scalar on one line, and what follows it. -/
def plainLine (flow : Bool) : Bool → List Char → List Char × List Char
  | _, [] => ([], [])
  | afterSpace, c :: rest =>
    if c = '\n' || (c = '#' && afterSpace) || (c = ':' && endsKey flow rest) ||
        (flow && isFlowMark c) then
      ([], c :: rest)
    else
      let (text, tail) := plainLine flow (isSpace c) rest
      (c :: text, tail)

def indentAfter (gap : List Char) : Nat := (gap.reverse.takeWhile (· = ' ')).length

def atMark : List Char → Bool
  | '-' :: '-' :: '-' :: rest => endsKey false rest
  | '.' :: '.' :: '.' :: rest => endsKey false rest
  | _ => false

/-- Reads a plain scalar; further lines of it are indented by at least the given width. -/
def readPlain (flow : Bool) (least : Nat) : Nat → List Char → List Char × List Char
  | 0, text => ([], text)
  | steps + 1, text =>
    let (line, rest) := plainLine flow false text
    let line := trimEnd line
    let gap := rest.takeWhile isGap
    let next := rest.dropWhile isGap
    let indent := indentAfter gap
    let goesOn := gap.contains '\n' && (flow || least ≤ indent) && !next.isEmpty &&
      next.head? ≠ some '#' && !(indent = 0 && atMark next)
    if !goesOn then (line, rest)
    else
      match readPlain flow least steps next with
      | ([], _) => (line, rest)
      | (more, rest) => (line ++ folded gap ++ more, rest)

inductive Chomping
  | clip
  | strip
  | keep
  deriving DecidableEq

/-- The head of a block scalar: an indentation, if it is given, and the chomping. -/
def blockHead? : Option Nat → Chomping → List Char → Option (Option Nat × Chomping)
  | indent, chomping, [] => some (indent, chomping)
  | indent, chomping, c :: rest =>
    if c = '-' ∧ chomping = .clip then blockHead? indent .strip rest
    else if c = '+' ∧ chomping = .clip then blockHead? indent .keep rest
    else if c.isDigit ∧ c ≠ '0' ∧ indent = none then blockHead? (Text.digit? c) chomping rest
    else none

def isBlankLine (line : List Char) : Bool := line.all (· = ' ')

def indentOf (line : List Char) : Nat := (line.takeWhile (· = ' ')).length

/-- The lines of a block, without their indentation, and the lines after it. -/
def blockLines (indent : Nat) : List (List Char) → List (List Char) × List (List Char)
  | [] => ([], [])
  | line :: rest =>
    if isBlankLine line || (indent ≤ indentOf line && !(indent = 0 && atMark line)) then
      let (block, others) := blockLines indent rest
      (line.drop indent :: block, others)
    else ([], line :: rest)

/-- Folds lines: a line end between two lines of text becomes a space, unless one of them is
indented further. -/
def foldLines : List (List Char) → List Char
  | [] => []
  | [line] => line
  | line :: next :: rest =>
    let more (line : List Char) : Bool := (line.head?.map isSpace).getD false
    if line.isEmpty || more line || next.isEmpty || more next then
      let between := if !line.isEmpty && !more line && next.isEmpty then [] else ['\n']
      line ++ between ++ foldLines (next :: rest)
    else line ++ ' ' :: foldLines (next :: rest)

def blockText (fold : Bool) (chomping : Chomping) (lines : List (List Char)) : List Char :=
  let tail := (lines.reverse.takeWhile List.isEmpty).length
  let body := lines.take (lines.length - tail)
  let text := if fold then foldLines body else Text.joinWith '\n' body
  match chomping with
  | .strip => text
  | .clip => if body.isEmpty then [] else text ++ ['\n']
  | .keep => text ++ List.replicate (if body.isEmpty then tail else tail + 1) '\n'

end CallAtlas.Yaml
