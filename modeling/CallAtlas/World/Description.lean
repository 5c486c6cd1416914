import CallAtlas.Json.Basic
import CallAtlas.World.Script

set_option autoImplicit false
set_option relaxedAutoImplicit false

/-!
Worlds described in JSON: an object with the fields `workdir`, `environment`, `directories`,
`files`, `links` and `programs`, all of them optional.  A program is a list of rules, each with
the fields `first`, `last`, `output`, `errors`, and `status`, `signal` or `hang` for its end.
-/

namespace CallAtlas.World

def part? (json : Json) (name : String) : Option Json := json.fields?.bind (·.lookup name)

def textOf? (json : Json) (name : String) : Option String := (part? json name).bind Json.string?

def numberOf? (json : Json) (name : String) : Option Nat :=
  match part? json name with
  | some (.integer value) => some value.toNat
  | _ => none

def textsOf (json : Json) (name : String) : List (String × String) :=
  (((part? json name).bind Json.fields?).getD []).filterMap fun (name, value) =>
    value.string?.map (name, ·)

def itemsOf (json : Json) (name : String) : List Json :=
  ((part? json name).bind Json.items?).getD []

def endingOf (json : Json) : Ending :=
  match part? json "hang", numberOf? json "signal" with
  | some (.boolean true), _ => .hanging
  | _, some signal => .signalled signal
  | _, none => .exited ((numberOf? json "status").getD 0)

def ruleOf (json : Json) : Rule :=
  let bytes (name : String) : List UInt8 := ((textOf? json name).getD "").toUTF8.toList
  ⟨textOf? json "first", textOf? json "last",
    ⟨bytes "output", bytes "errors", endingOf json⟩⟩

def scriptsOf (json : Json) : List (Location × Script) :=
  (((part? json "programs").bind Json.fields?).getD []).map fun (path, rules) =>
    (Location.ofPath ⟨path⟩, (rules.items?.getD []).map ruleOf)

def diskOf (json : Json) : Disk :=
  let directories := (itemsOf json "directories").filterMap Json.string?
  let disk := directories.foldl (fun disk path => disk.ensure (Location.ofPath ⟨path⟩)) Disk.empty
  let disk := (textsOf json "files").foldl
    (fun disk (path, text) => disk.install (Location.ofPath ⟨path⟩) (.file text)) disk
  (textsOf json "links").foldl
    (fun disk (path, target) => disk.install (Location.ofPath ⟨path⟩) (.link target)) disk

def ofJson (json : Json) : World :=
  start (diskOf json) (Location.ofPath ⟨(textOf? json "workdir").getD "/"⟩)
    (textsOf json "environment") (scriptsOf json)

end CallAtlas.World
