import Conch.Code.Reader
import Conch.World.Basic

/-!
# What words stand for

Whether a word can be run as a command, and whether it leads somewhere in the file tree.
-/

namespace Conch.Screen

open World

/-- A command is a program that is found by its name; words that code is made of are none. -/
def isCommand (w : World) (word : String) : Bool :=
  !Code.isKeyword word && (w.which word).isSome

def isPath (w : World) (word : String) : Bool := w.files.pathExists w.cwd (w.expandHome word)

end Conch.Screen
