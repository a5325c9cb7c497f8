/-!
# Paths

A place in the file tree is the list of names from the root down to it. Texts of paths are joined,
normalised and expanded without looking at the tree.
-/

namespace Conch.World

/-- The names from the root down. -/
abbrev Path := List String

namespace Path

def text (p : Path) : String := "/" ++ "/".intercalate p

/-- Cuts a text at each occurrence of a character. -/
def cut (separator : Char) (part : List Char) : List Char → List String
  | [] => [String.ofList part.reverse]
  | c :: rest =>
    if c = separator then String.ofList part.reverse :: cut separator [] rest
    else cut separator (c :: part) rest

/-- The names in a text, without empty ones. -/
def names (s : String) : List String := (cut '/' [] s.toList).filter (· ≠ "")

def isAbsolute (s : String) : Bool := s.toList.head? == some '/'

/-- Puts a path behind a directory; an absolute one stands for itself. -/
def join (directory path : String) : String :=
  if isAbsolute path then path
  else if directory.isEmpty || directory.toList.getLast? == some '/' then directory ++ path
  else directory ++ "/" ++ path

/-- Whether a text names a directory in front of its last name. -/
def hasDirectory (s : String) : Bool := s.toList.contains '/'

/-- Resolves `.` and `..` among names below the root. -/
def resolveDots (done : List String) : List String → Path
  | [] => done.reverse
  | n :: rest =>
    if n = "." then resolveDots done rest
    else if n = ".." then resolveDots (done.drop 1) rest
    else resolveDots (n :: done) rest

/-- The absolute form of a path as seen from a directory. -/
def absolute (cwd : Path) (s : String) : String :=
  let up := resolveDots (if isAbsolute s then [] else cwd.reverse) (names s)
  let slashes := s.toList.takeWhile (· == '/')
  if slashes.length == 2 then "/" ++ text up else text up

/-- The last name of a path. -/
def baseName (s : String) : String := ((names s).filter (· ≠ ".")).getLast?.getD ""

/-- The text of a home directory, without slashes at its end, and what follows it. -/
def under (home : String) (tail : List Char) : String :=
  let expanded := String.ofList ((home.toList.reverse.dropWhile (· == '/')).reverse ++ tail)
  if expanded.isEmpty then "/" else expanded

/-- Replaces a leading `~` by a home directory; `homeOf` knows those of users by name, with the
empty name for one's own. -/
def expandHome (homeOf : String → Option String) (s : String) : String :=
  match s.toList with
  | '~' :: rest =>
    let user := rest.takeWhile (· != '/')
    match homeOf (String.ofList user) with
    | none => s
    | some home => under home (rest.drop user.length)
  | _ => s

end Path

end Conch.World
