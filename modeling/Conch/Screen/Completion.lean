import Conch.Shell.Builtin

/-!
# Completion

A word is completed to the paths that start with it; a word that stands alone also to builtins and
to commands. What a word was completed to once is not offered again.
-/

namespace Conch.Screen

open World

/-- What is put in, how far in front of the cursor it starts, and what is shown for it. -/
structure Completion where
  text : List Char
  start : Int
  shown : List Char
  deriving DecidableEq, Repr

namespace Completion

/-- The word that a completion makes of one. -/
def apply (word : List Char) (c : Completion) : List Char :=
  word.take (word.length + c.start).toNat ++ c.text

/-- Leaves out completions to words that were seen before. -/
def fresh (word : List Char) (seen : List (List Char)) : List Completion → List Completion
  | [] => []
  | c :: rest =>
    let full := c.apply word
    if seen.contains full then fresh word seen rest else c :: fresh word (full :: seen) rest

end Completion

/-- The text behind the last blank. -/
def currentWord (text : List Char) : List Char := (text.reverse.takeWhile (· != ' ')).reverse

/-- A builtin takes the place of the whole word. -/
def builtinCompletions (word : List Char) (names : List (List Char)) : List Completion :=
  (names.filter fun n => word.isPrefixOf n).map fun n => ⟨n, -word.length, n⟩

/-- All completions of a text, given what paths and commands offer for a word. -/
def completionsWith (builtins : List (List Char)) (paths commands : List Char → List Completion)
    (text : List Char) : List Completion :=
  let word := currentWord text
  let alone := !text.contains ' ' && !word.isEmpty
  Completion.fresh word [] (paths word ++
    if alone then builtinCompletions word builtins ++ commands word else [])

/-- A text up to its last slash, and what is behind it. -/
def splitPath (path : List Char) : List Char × List Char :=
  let name := (path.reverse.takeWhile (· != '/')).reverse
  (path.take (path.length - name.length), name)

/-- The directory that a path names, without slashes at its end unless it is nothing else. -/
def directoryOf (path : List Char) : List Char :=
  let (head, _) := splitPath path
  if head.all (· == '/') then head else (head.reverse.dropWhile (· == '/')).reverse

/-- Completes a path within some directories to the names there that a test lets through. -/
def pathCompletions (w : World) (directories : List String) (admits : String → Bool)
    (word : List Char) : List Completion :=
  let path := (w.expandHome (String.ofList word)).toList
  let (_, start) := splitPath path
  let places := if (directoryOf path).isEmpty then directories
    else directories.map fun d =>
      String.ofList (directoryOf (Path.join d (String.ofList path)).toList)
  let found := places.flatMap fun d =>
    if !w.files.isDirectoryAt w.cwd d then []
    else match w.files.node w.cwd d with
      | .ok (p, _) =>
        ((w.files.children p).filter fun n => start.isPrefixOf n.toList).map fun n => (d, n)
      | .error _ => []
  (found.mergeSort fun a b => a.2 ≤ b.2).filterMap fun (d, n) =>
    let full := Path.join d n
    if !admits full then none
    else
      let rest := n.toList.drop start.length
      let shown := if w.files.isDirectoryAt w.cwd full then n.toList ++ ['/'] else n.toList
      some ⟨rest, 0, shown⟩

/-- Whether one may run what a path leads to, or look into it. -/
def isPermitted (w : World) (path : String) : Bool :=
  w.files.isExecutableAt w.cwd path || w.files.isDirectoryAt w.cwd path

def pathsFor (w : World) (word : List Char) : List Completion :=
  pathCompletions w ["."] (fun _ => true) word

def commandsFor (w : World) (word : List Char) : List Completion :=
  if word.isEmpty then []
  else
    let directories := Path.cut ':' [] ((w.env["PATH"]?).getD "").toList
    pathCompletions w directories (isPermitted w) word

/-- The completions at the end of a text. -/
def completions (w : World) (text : String) : List Completion :=
  completionsWith (Shell.Builtin.all.map fun b => b.name.toList) (pathsFor w) (commandsFor w)
    text.toList

end Conch.Screen
