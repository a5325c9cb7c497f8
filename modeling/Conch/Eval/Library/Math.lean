import Conch.Eval.Call

/-!
# Mathematical functions
-/

namespace Conch.Eval.Math

open Eval

def real (v : Value) : Run Float := do
  match Number.asFloat? v with
  | some x => x
  | none => failType ("must be real number, not " ++ (← typeName v))

def whole (m : Machine) (v : Value) : Run Int := do
  match ← index? m v with
  | some n => return n
  | none => fail (.notInteger (← typeName v))

def factorial (n : Nat) : Nat := (List.range n).foldl (fun acc k => acc * (k + 1)) 1

/-- A function of floats whose result is not a number only outside its domain. -/
def plain (f : Float → Float) (x : Float) : Run Value :=
  let y := f x
  if y.isNaN && !x.isNaN then failValue "math domain error"
  else if y.isInf && x.isFinite then fail (.overflow "math range error")
  else return .float y

def rounded (round : Decimal.Binary → Int) (v : Value) : Run Value := do
  match Number.asInt? v with
  | some n => return .int n
  | none => .int <$> Number.toInt round (← real v)

def logarithm (x : Float) : Run Float :=
  if x ≤ 0.0 then failValue "math domain error" else return Float.log x

/-- Calls a function by its name. -/
def call (m : Machine) (name : String) (args : List Value) (keywords : Vars) : Run Value := do
  let full := "math." ++ name
  match name with
  | "floor" => rounded Number.floor (← oneArgument full args keywords)
  | "ceil" => rounded Number.ceiling (← oneArgument full args keywords)
  | "trunc" => rounded Number.truncate (← oneArgument full args keywords)
  | "sqrt" => do plain Float.sqrt (← real (← oneArgument full args keywords))
  | "fabs" => do plain Float.abs (← real (← oneArgument full args keywords))
  | "exp" => do plain Float.exp (← real (← oneArgument full args keywords))
  | "sin" => do plain Float.sin (← real (← oneArgument full args keywords))
  | "cos" => do plain Float.cos (← real (← oneArgument full args keywords))
  | "tan" => do plain Float.tan (← real (← oneArgument full args keywords))
  | "log2" =>
    let x ← real (← oneArgument full args keywords)
    if x ≤ 0.0 then failValue "math domain error" else return .float (Float.log2 x)
  | "log10" =>
    let x ← real (← oneArgument full args keywords)
    if x ≤ 0.0 then failValue "math domain error" else return .float (Float.log10 x)
  | "log" => match args with
    | [v] => do return .float (← logarithm (← real v))
    | [v, b] => do
      let base ← logarithm (← real b)
      if base == 0.0 then fail (.divisionByZero "float division by zero")
      return .float ((← logarithm (← real v)) / base)
    | vs => failType ("log expected at least 1 argument, got " ++ toString vs.length)
  | "pow" => match ← someArguments name 2 2 args keywords with
    | [a, b] => do return .float (Float.pow (← real a) (← real b))
    | _ => return .none
  | "fmod" => match ← someArguments name 2 2 args keywords with
    | [a, b] =>
      let y ← real b
      if y == 0.0 then failValue "math domain error"
      return .float (Number.remainder (← real a) y)
    | _ => return .none
  | "hypot" =>
    let xs ← args.mapM real
    return .float (Float.sqrt (xs.foldl (fun acc x => acc + x * x) 0.0))
  | "isnan" => do return .bool (← real (← oneArgument full args keywords)).isNaN
  | "isinf" => do return .bool (← real (← oneArgument full args keywords)).isInf
  | "isfinite" => do return .bool (← real (← oneArgument full args keywords)).isFinite
  | "isqrt" =>
    let n ← whole m (← oneArgument full args keywords)
    if n < 0 then failValue "isqrt() argument must be nonnegative"
    return .int (Number.squareRoot n.toNat)
  | "factorial" =>
    let n ← whole m (← oneArgument full args keywords)
    if n < 0 then failValue "factorial() not defined for negative values"
    return .int (factorial n.toNat)
  | "gcd" =>
    let ns ← args.mapM (whole m)
    return .int (ns.foldl (fun (g : Nat) n => Nat.gcd g n.natAbs) 0 : Nat)
  | "lcm" =>
    let ns ← args.mapM (whole m)
    return .int (ns.foldl (fun (g : Nat) n => Nat.lcm g n.natAbs) 1 : Nat)
  | "prod" =>
    let vs ← collect m (args.headD (.tuple []))
    vs.foldlM (fun acc v => binary m .mul acc v) ((keywords.get? "start").getD (.int 1))
  | "isclose" => match args with
    | a :: b :: _ =>
      let x ← real a
      let y ← real b
      let bound := max (1e-9 * max x.abs y.abs) 0.0
      return .bool (x == y || (x - y).abs ≤ bound)
    | _ => failType "isclose() missing required argument 'b' (pos 2)"
  | _ => fail (.noModuleAttribute "math" name)

end Conch.Eval.Math
