import Conch.Eval.Attribute
import Conch.Eval.Item
import Conch.Eval.Iterate
import Conch.Eval.Name

/-!
# Targets

What stands on the left of an assignment: a name, an attribute, an item, or several targets that the
value is taken apart for.
-/

namespace Conch.Eval

open Code

def isStarred : Expr → Bool
  | .starred _ => true
  | _ => false

mutual

def assignTo (m : Machine) (target : Expr) (v : Value) : Run Unit :=
  match target with
  | .name id => assignVar id v
  | .attribute e name => do setAttr m (← m.eval e) name v
  | .subscript e index => do
    let container ← m.eval e
    setItem m (collect m) container (← m.eval index) v
  | .starred e => assignTo m e v
  | .tuple es | .list es => do
    let vs ← unpacked m v
    let stars := es.countP isStarred
    if stars = 0 then
      if vs.length < es.length then fail (.tooFewValues es.length vs.length false)
      if vs.length > es.length then fail (.tooManyValues es.length)
    else if vs.length + stars < es.length then
      fail (.tooFewValues (es.length - stars) vs.length true)
    assignAll m (vs.length + 1 - es.length) es vs
  | _ => fail (.misrun "no target")

/-- Gives each target its value; a starred one takes `spare` of them as a list. -/
def assignAll (m : Machine) (spare : Nat) : List Expr → List Value → Run Unit
  | [], _ => return
  | e :: es, vs =>
    if isStarred e then do
      assignTo m e (← make (.list (vs.take spare)))
      assignAll m spare es (vs.drop spare)
    else do
      assignTo m e (vs.head?.getD .none)
      assignAll m spare es (vs.drop 1)

end

mutual

def deleteTarget (m : Machine) (target : Expr) : Run Unit :=
  match target with
  | .name id => deleteVar id
  | .attribute e name => do deleteAttr (← m.eval e) name
  | .subscript e index => do
    let container ← m.eval e
    deleteItem m container (← m.eval index)
  | .tuple es | .list es => deleteAll m es
  | _ => fail (.misrun "no target")

def deleteAll (m : Machine) : List Expr → Run Unit
  | [] => return
  | e :: es => do
    deleteTarget m e
    deleteAll m es

end

end Conch.Eval
