/-!
# Paths

A path is a text with slashes between its components. Empty components and those that name the
directory itself do not count, but a relative path may start with one of the latter.

* `components`: the components of a path.
* `endsWith`: whether a path ends with all components of another one.
* `relativeTo?`: a path below a directory as seen from there.
* `fileName?`, `extension?`: the last component, and what follows its last dot.
-/

namespace TerraLint.Path

/-- A component of a path. The root is the slash that a path starts with, the current directory the
dot that it starts with. -/
inductive Component where
  | root
  | current
  | parent
  | name (text : List Char)
deriving DecidableEq, Repr

/-- The texts between the slashes of a path. -/
def pieces (path : String) : List (List Char) := path.toList.splitOn '/'

/-- Whether the text between two slashes does not count. -/
def isIdle (piece : List Char) : Bool := piece.isEmpty || piece == ['.']

/-- The component of a text between slashes that counts. -/
def ofPiece (piece : List Char) : Component :=
  if piece = ['.', '.'] then .parent else .name piece

/-- The start of a path: a slash or a dot. -/
def anchor (path : String) : List Component :=
  match path.toList with
  | '/' :: _ => [.root]
  | ['.'] | '.' :: '/' :: _ => [.current]
  | _ => []

/-- The components of a path. -/
def components (path : String) : List Component :=
  anchor path ++ ((pieces path).filter fun p => !isIdle p).map ofPiece

/-- Whether a path ends with all components of another one. -/
def endsWith (path suffix : String) : Bool := (components suffix).isSuffixOf (components path)

/-- The texts between slashes after the first `n` of them that count. -/
def dropCounted : Nat → List (List Char) → List (List Char)
  | 0, ps => ps
  | _ + 1, [] => []
  | n + 1, p :: ps => if isIdle p then dropCounted (n + 1) ps else dropCounted n ps

/-- The texts between slashes without those at the ends that do not count. -/
def trimIdle (ps : List (List Char)) : List (List Char) :=
  ((ps.dropWhile isIdle).reverse.dropWhile isIdle).reverse

/-- A path as seen from a directory, if it lies below it: as written, without the slashes and the
dots at its ends. -/
def relativeTo? (directory path : String) : Option String :=
  if (components directory).isPrefixOf (components path) then
    let counted := (components directory).length - (anchor directory).length
    some (String.ofList (['/'].intercalate (trimIdle (dropCounted counted (pieces path)))))
  else none

/-- The last component, if it is a name. -/
def fileName? (path : String) : Option String :=
  match (components path).getLast? with
  | some (.name text) => some (String.ofList text)
  | _ => none

/-- What follows the last dot of the last component, unless nothing stands before it. -/
def extension? (path : String) : Option String := do
  let name := (← fileName? path).toList
  let after := (name.reverse.takeWhile (· != '.')).reverse
  let before := name.take (name.length - after.length - 1)
  if before.isEmpty then none else some (String.ofList after)

end TerraLint.Path
