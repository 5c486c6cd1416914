import CallAtlas.Failure
import CallAtlas.World.Expansion

set_option autoImplicit false
set_option relaxedAutoImplicit false

namespace CallAtlas.Root

def unsetText : String := "environment variable not found"

def canonical (world : World) (path : Path) : Except SystemError Path :=
  (world.disk.lookup world.workdir path).map fun found => found.1.path

def resolve (world : World) (given settings : Option Path) : Except Failure Path :=
  let raw := (given.or settings).getD ⟨"."⟩
  match World.expand world.environment raw.text with
  | .error name =>
    .error ⟨"Failed to expand root path " ++ raw.text,
      ["error looking key '" ++ name ++ "' up: " ++ unsetText, unsetText]⟩
  | .ok expanded =>
    match canonical world ⟨expanded⟩ with
    | .error error => .error (.ofSystem ("Root directory not found: " ++ expanded) error)
    | .ok root => .ok root

end CallAtlas.Root
