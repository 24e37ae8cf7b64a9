/-!
Paths as texts. A path is a sequence of pieces between slashes; empty pieces mean nothing, and a leading slash makes
the path absolute. What a piece stands for is decided only where the path is used.
-/
namespace Tabscript.Path

def isAbsolute (path : String) : Bool :=
  path.toList.head? == some '/'

def endsInSlash (path : String) : Bool :=
  path.toList.getLast? == some '/'

/-- A path below another; an absolute path stays what it is. -/
def join (base path : String) : String :=
  if isAbsolute path then path
  else if base.isEmpty || endsInSlash base then base ++ path
  else base ++ "/" ++ path

/-- The pieces between slashes, empty ones included; `held` is the piece read so far, reversed. -/
def splitFrom (held : List Char) : List Char → List (List Char)
  | [] => [held.reverse]
  | c :: cs => if c = '/' then held.reverse :: splitFrom [] cs else splitFrom (c :: held) cs

def pieces (path : String) : List String :=
  ((splitFrom [] path.toList).filter fun piece => !piece.isEmpty).map String.ofList

/-- The last piece, unless it is a step upwards; a dot is no piece here. -/
def fileName? (path : String) : Option String :=
  match ((pieces path).filter (· != ".")).getLast? with
  | none => none
  | some ".." => none
  | some name => some name

/-- What follows the last dot of the file name, if that dot is not its first character. -/
def extension? (path : String) : Option String :=
  match fileName? path with
  | none => none
  | some name =>
    let reversed := name.toList.reverse
    match reversed.dropWhile (· != '.') with
    | [] => none
    | [_] => none
    | _ :: _ :: _ => some (String.ofList (reversed.takeWhile (· != '.')).reverse)

end Tabscript.Path
