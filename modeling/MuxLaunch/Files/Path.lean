import MuxLaunch.Text.Search

/-! # Paths

Paths as text: their parts, their base name, and the two ways in which they are tidied without
looking at any file.
-/

namespace MuxLaunch.Path

/-- The pieces between the slashes, which may be empty. -/
def pieces (path : String) : List String :=
  (Text.splitAt '/' path.toList).map String.ofList

/-- The names between the slashes. -/
def names (path : String) : List String :=
  (pieces path).filter (· ≠ "")

def isAbsolute (path : String) : Bool :=
  path.toList.head? = some '/'

def endsWithSlash (path : String) : Bool :=
  path.toList.getLast? = some '/'

/-- Does a path hold a null character? The system is never asked about such a path. -/
def holdsNull (path : String) : Bool :=
  path.toList.contains '\x00'

/-- What the kernel steps through: the names, and the directory itself after a final slash. -/
def components (path : String) : List String :=
  if endsWithSlash path then names path ++ ["."] else names path

/-- The text after the last slash. -/
def baseName (path : String) : String :=
  String.ofList (Text.afterLast '/' path.toList)

def joinNames (names : List String) : String :=
  "/".intercalate names

/-- A path below a directory. An absolute path stays as it is. -/
def join (directory path : String) : String :=
  if isAbsolute path then path
  else if directory = "" ∨ endsWithSlash directory then directory ++ path
  else directory ++ "/" ++ path

/-- The slashes that a path begins with: exactly two are kept, any other number counts as one. -/
def root (path : String) : String :=
  match (path.toList.takeWhile (· = '/')).length with
  | 0 => ""
  | 2 => "//"
  | _ => "/"

/-- A path without empty and single-dot names. The empty path becomes a dot. -/
def tidy (path : String) : String :=
  let text := root path ++ joinNames ((names path).filter (· ≠ "."))
  if text = "" then "." else text

/-- Names with each double dot cancelling the name before it. The names so far are given the last
    first; a double dot is kept only when a relative path has nothing to cancel. -/
def cancelDots (absolute : Bool) : List String → List String → List String
  | done, [] => done.reverse
  | done, name :: rest =>
      if name = "." then cancelDots absolute done rest
      else if name = ".." then
        match done with
        | [] => cancelDots absolute (if absolute then [] else [".."]) rest
        | last :: before =>
            if last = ".." then cancelDots absolute (".." :: done) rest
            else cancelDots absolute before rest
      else cancelDots absolute (name :: done) rest

/-- A path without empty names, single dots and double dots that cancel. -/
def normalize (path : String) : String :=
  let text := root path ++ joinNames (cancelDots (isAbsolute path) [] (names path))
  if text = "" then "." else text

end MuxLaunch.Path
