import InviteLink.Record.Basic

set_option autoImplicit false

/-! # What goes where

A link in web form carries its name as readable text and everything else in its blob; a link in
internal form carries the whole record in its blob. -/

namespace InviteLink

/-- The parts of a record by destination: what the blob of either form holds, and the pairs that
    the web form shows as readable text. -/
structure Parts where
  webBlob : Record
  internalBlob : Record
  readable : List (Text × Text)
  deriving DecidableEq

/-- The name under which the readable text of a link holds the display name. -/
def nameKey : Text := "name".points

/-- The readable pairs for a display name; an empty name has none. -/
def readablePairs (displayName : Text) : List (Text × Text) :=
  if displayName = [] then [] else [(nameKey, displayName)]

namespace Record

/-- The parts of a record. A group that lacks its descriptor has none. -/
def parts? (r : Record) : Option Parts :=
  match r with
  | .group ⟨none, _⟩ => none
  | _ => some ⟨r.withDisplayName [], r, readablePairs r.displayName⟩

/-- The record under `name`, unless it has a name of its own. -/
def adoptName (name : Text) (r : Record) : Record :=
  if r.displayName = [] then r.withDisplayName name else r

end Record

end InviteLink
