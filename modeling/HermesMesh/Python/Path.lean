import HermesMesh.Python.Text

/-!
# Paths

`pathlib` keeps `..` as a component and drops empty ones and `.`.  A path is the
list of its components below the root directory; where it leads is found by
following it, `..` going one directory up.
-/

namespace HermesMesh.Python

/-- An absolute path: its components from the root directory down. -/
abbrev Path := List PyStr

def slash : CodePoint := 0x2f

/-- `text.split("/")`. -/
def splitSlash : PyStr → List PyStr
  | [] => [[]]
  | c :: rest =>
      if c = slash then [] :: splitSlash rest
      else
        match splitSlash rest with
        | [] => [[c]]
        | piece :: pieces => (c :: piece) :: pieces

/-- The components `pathlib` keeps of a text. -/
def components (text : PyStr) : List PyStr :=
  (splitSlash text).filter fun piece => piece ≠ [] ∧ piece ≠ lit "."

namespace Path

/-- `path / text`: an absolute text replaces the path. -/
def join (path : Path) (text : PyStr) : Path :=
  if text.head? = some slash then components text else path ++ components text

/-- `path.parent`. -/
def parent (path : Path) : Path := path.dropLast

/-- One component followed from a directory. -/
def enter (place : Path) (piece : PyStr) : Path :=
  if piece = lit ".." then place.dropLast else place ++ [piece]

/-- Where a path leads when no symbolic link lies on it. -/
def follow (place : Path) (pieces : List PyStr) : Path := pieces.foldl enter place

end Path

end HermesMesh.Python
