import Conch.Code.Check

/-!
# Generators

A function that gives values along the way is a generator. What functions inside it give does not
count.
-/

namespace Conch.Code

def exprYields (e : Expr) : Bool := e.flows.contains .yields

def optionYields (e : Option Expr) : Bool := e.any exprYields

mutual

/-- Whether a statement gives values of the function that it stands in. -/
def Stmt.yields : Stmt → Bool
  | .function _ _ _ _ decorators _ => decorators.any exprYields
  | .cls _ bases _ _ decorators => bases.any exprYields || decorators.any exprYields
  | .ret value => optionYields value
  | .delete targets => targets.any exprYields
  | .assign targets value => targets.any exprYields || exprYields value
  | .augAssign target _ value => exprYields target || exprYields value
  | .annAssign _ _ value _ => optionYields value
  | .forLoop _ _ source body orelse => exprYields source || yieldsIn body || yieldsIn orelse
  | .whileLoop test body orelse => exprYields test || yieldsIn body || yieldsIn orelse
  | .branch test body orelse => exprYields test || yieldsIn body || yieldsIn orelse
  | .withBlock _ items body => (items.any fun i => exprYields i.context) || yieldsIn body
  | .matchOn subject cases => exprYields subject || yieldsInCases cases
  | .raise exception cause => optionYields exception || optionYields cause
  | .attempt _ body handlers orelse final =>
    yieldsIn body || yieldsInHandlers handlers || yieldsIn orelse || yieldsIn final
  | .assertion test message => exprYields test || optionYields message
  | .expr value => exprYields value
  | .importNames _ | .importFrom _ _ _ | .global _ | .nonlocal _ | .pass | .stop | .next => false

def yieldsIn : List Stmt → Bool
  | [] => false
  | s :: ss => s.yields || yieldsIn ss

def yieldsInCases : List Case → Bool
  | [] => false
  | .mk _ guard body :: cases => optionYields guard || yieldsIn body || yieldsInCases cases

def yieldsInHandlers : List Handler → Bool
  | [] => false
  | .mk _ _ body :: handlers => yieldsIn body || yieldsInHandlers handlers

end

end Conch.Code
