import Conch.Screen.Highlight.Kind
import Conch.Text.Pattern

/-!
# Colouring by rules

A text is cut into tokens by rules. The rules that apply depend on a stack of states; the first rule
that fits at a place makes tokens of what it fits and changes the stack. A character that no rule
fits is an error, and a line feed that none fits leads back to the first state.
-/

namespace Conch.Screen

open Text

structure Token where
  position : Nat
  kind : Kind
  text : List Char
  deriving DecidableEq, Repr

/-- How a piece is coloured. -/
inductive Paint where
  | plain (kind : Kind)
  /-- By what it says. -/
  | chosen (kindOf : List Char → Kind)
  /-- As an input of its own. -/
  | nested

/-- What a rule does to the stack of states. -/
inductive Move (State : Type) where
  | stay
  | push (state : State)
  | pop

structure Rule (State : Type) where
  /-- The pieces, one behind the other, and how each is coloured. -/
  pieces : List (Pattern × Paint)
  /-- Whether pieces without a character are tokens as well. -/
  keepsEmpty : Bool
  move : Move State

namespace Rule

variable {State : Type}

/-- A rule for a single piece, which is a token even if it is empty. -/
def whole (pattern : Pattern) (kind : Kind) (move : Move State) : Rule State :=
  ⟨[(pattern, .plain kind)], true, move⟩

/-- A rule that changes nothing but the colour. -/
def plain (pattern : Pattern) (kind : Kind) : Rule State := whole pattern kind .stay

/-- A rule for several pieces. -/
def groups (pieces : List (Pattern × Kind)) (move : Move State) : Rule State :=
  ⟨pieces.map fun (p, k) => (p, .plain k), false, move⟩

/-- A rule that always fits and takes nothing. -/
def otherwise (move : Move State) : Rule State := ⟨[], false, move⟩

/-- The lengths of a rule's pieces at a place, if it fits there. -/
def lengths? (r : Rule State) (here : Place) : Option (List Nat) :=
  Pattern.lengths (r.pieces.map (·.1)) here

end Rule

def Move.apply {State : Type} (stack : List State) : Move State → List State
  | .stay => stack
  | .push state => state :: stack
  | .pop => if stack.length > 1 then stack.drop 1 else stack

/-- Colours a piece at an offset; `inner` colours inputs of their own. -/
def Paint.tokens (inner : List Char → List Token) (keepsEmpty : Bool) (offset : Nat)
    (text : List Char) : Paint → List Token
  | .plain kind => if text.isEmpty && !keepsEmpty then [] else [⟨offset, kind, text⟩]
  | .chosen kindOf => [⟨offset, kindOf text, text⟩]
  | .nested => (inner text).map fun t => { t with position := offset + t.position }

/-- Cuts pieces of the given lengths off a text and colours them. -/
def paintPieces (inner : List Char → List Token) (keepsEmpty : Bool) (offset : Nat)
    (text : List Char) : List Paint → List Nat → List Token
  | paint :: paints, n :: ns =>
    paint.tokens inner keepsEmpty offset (text.take n) ++
      paintPieces inner keepsEmpty (offset + n) (text.drop n) paints ns
  | _, _ => []

/-- The first rule that fits, with the lengths of its pieces. -/
def firstFit {State : Type} (here : Place) : List (Rule State) → Option (Rule State × List Nat)
  | [] => none
  | r :: rest => match r.lengths? here with
    | some ns => some (r, ns)
    | none => firstFit here rest

/-- Colours what is behind a place; `ground` is the first state. Every step takes a character or
takes a state off the stack that an earlier one put there. -/
def paintFrom {State : Type} (rules : State → List (Rule State)) (ground : State)
    (inner : List Char → List Token) : Nat → List State → Place → List Token
  | 0, _, _ => []
  | steps + 1, stack, here =>
    match firstFit here (rules (stack.headD ground)) with
    | some (r, ns) =>
      paintPieces inner r.keepsEmpty here.offset here.after (r.pieces.map (·.2)) ns ++
        paintFrom rules ground inner steps (r.move.apply stack) (here.advance ns.sum)
    | none => match here.after with
      | [] => []
      | c :: _ =>
        if c = '\n' then
          ⟨here.offset, .whitespace, [c]⟩ ::
            paintFrom rules ground inner steps [ground] (here.advance 1)
        else
          ⟨here.offset, .error, [c]⟩ :: paintFrom rules ground inner steps stack (here.advance 1)

/-- Colours a text, starting in a state. -/
def paintText {State : Type} (rules : State → List (Rule State)) (ground : State)
    (inner : List Char → List Token) (state : State) (text : List Char) : List Token :=
  paintFrom rules ground inner (2 * text.length + 2) [state] (.start text)

end Conch.Screen
