import Conch.Text.Search
import Conch.World.Basic

/-!
# The prompt

What stands in front of the input: the virtual environment, the user, the host and the directory,
each part in a style of its own.
-/

namespace Conch.Screen

open World

inductive Style where
  | comment
  | decorator
  | function
  | operator
  | cls
  | string
  deriving DecidableEq, Repr

/-- The class of texts that a style sheet knows a style as. -/
def Style.tag : Style → String
  | comment => "class:pygments.comment"
  | decorator => "class:pygments.name.decorator"
  | function => "class:pygments.name.function"
  | operator => "class:pygments.operator"
  | cls => "class:pygments.name.class"
  | string => "class:pygments.literal.string"

structure Part where
  style : Style
  text : String
  deriving DecidableEq, Repr

/-- A variable that is set to something. -/
def filled (env : Env) (name : String) : Option String :=
  match env[name]? with
  | some v => if v.isEmpty then none else some v
  | none => none

/-- The virtual environment that is active, by its last name. -/
def environmentName (w : World) : Option String :=
  match filled w.env "VIRTUAL_ENV" with
  | some path => some (Path.baseName path)
  | none =>
    match filled w.env "CONDA_DEFAULT_ENV" with
    | some "base" | none => w.installedIn.map Path.baseName
    | some name => some name

/-- The text of a path without what does not matter in it. -/
def tidy (path : String) : String :=
  let slashes := (path.toList.takeWhile (· == '/')).length
  let root := if slashes = 0 then "" else if slashes = 2 then "//" else "/"
  let tidied := root ++ "/".intercalate ((Path.names path).filter (· ≠ "."))
  if tidied.isEmpty then "." else tidied

/-- Why there is no prompt. -/
inductive PromptFault where
  /-- The working directory is gone. -/
  | noDirectory
  /-- Nobody knows where the user's own directory is. -/
  | noHome
  deriving DecidableEq, Repr

/-- Finds out whom the prompt names. -/
def identify (w : World) : Except PromptFault Identity :=
  let home := w.expandHome "~"
  if home.toList.head? == some '~' then .error .noHome
  else
    let user := ((filled w.env "USER").or (filled w.env "USERNAME")).getD ""
    .ok ⟨user, w.host, tidy home⟩

/-- The directory as the prompt shows it: a path that starts like the user's own has `~` for it. -/
def shownDirectory (home cwd : List Char) : List Char :=
  if home.isPrefixOf cwd then Text.replace home "~".toList cwd.length cwd else cwd

def environmentParts (name : Option String) : List Part :=
  match name with
  | none => []
  | some name =>
    if name.isEmpty then []
    else [⟨.comment, "("⟩, ⟨.decorator, name⟩, ⟨.comment, ") "⟩]

def promptParts (who : Identity) (w : World) : List Part :=
  let directory := shownDirectory who.home.toList w.cwd.text.toList
  environmentParts (environmentName w) ++
    [⟨.function, who.user⟩, ⟨.operator, "@"⟩, ⟨.cls, who.host ++ " "⟩,
      ⟨.string, String.ofList directory⟩, ⟨.operator, " > "⟩]

/-- The prompt, and the world that remembers whom it names. -/
def prompt (w : World) : Except PromptFault (List Part) × World :=
  match w.identity.elim (identify w) .ok with
  | .error f => (.error f, w)
  | .ok who =>
    let w := { w with identity := some who }
    if w.files.isDirectory w.cwd then (.ok (promptParts who w), w) else (.error .noDirectory, w)

/-- What stands in front of the further lines of an input; a line that is only wrapped has nothing.
-/
def continuation (width : Int) (wrapped : Bool) : List Part :=
  if wrapped then [] else [⟨.comment, String.ofList (List.replicate width.toNat ' ')⟩]

end Conch.Screen
