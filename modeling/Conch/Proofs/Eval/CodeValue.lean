import Mathlib
import Conch.Proofs.Code.NoExpression
import Conch.Proofs.Eval.Command
import Conch.Proofs.Eval.ValueExpansion
import Conch.Proofs.Line.LoneValue

/-!
# Values in code and in commands

The expansion `@(…)` asks for a value, in code and in commands. Code is given the content as an
expression if it is one, and otherwise the content itself as a text. A command expands the content
first, and evaluates what comes of it. So the two agree on the content of an expression that holds no
expansion: it is evaluated once, in a frame of its own with the same variables, and they give the
same text or both fail. They do not agree on a content with blanks or an expansion in front, nor on
any other text that is no expression: in code it stands for itself.
-/

namespace Conch.Eval

open Effect Code Line Scan

/-- A text that denotes an expression. No starred expression stands alone. -/
structure Denotes (c : String) (e : Expr) : Prop where
  parsed : parse .expression c = .ok (.expression e)
  sound : (Program.expression e).fault? = none
  whole : ∀ e', e ≠ .starred e'
  first : ∀ d ∈ c.toList.head?, d ≠ ' ' ∧ d ≠ '\t'

/-- The code that an expression is printed as, and read from again as the value that is called for. -/
structure Prints (e : Expr) (printed : String) : Prop where
  plain : Printer.plain e = .ok printed
  read : parse .expression (valueCode printed) = .ok (.expression (expansionCall .value e))

/-- A value whose words are settled by the objects that there are. -/
def Worded (t : Session) (v : Value) (text : String) : Prop :=
  ∀ (m : Machine) (u : Session), u.store = t.store → Library.commandText m v u = (.ok text, u)

/-- A value in a command: the content is expanded, what comes of it is evaluated, and the value is put
into words. An error is reported with the content. -/
def commandValue (m : Machine) (globals : Addr) (c : String) : Run String :=
  tryCatch (do
    let content ← Library.expandText m globals c
    Library.commandText m (← evaluateSource m globals content)) fun r => do
    throw (← (Library.performer m globals).report .value c.toList r)

/-- A computation that failed. -/
def Fails {α : Type} (outcome : Except Raised α × Session) : Prop := ∃ r t, outcome = (.error r, t)

/-- A value in code and in a command, given what its expression was evaluated to: the same text, or a
failure of both. -/
structure Agree (s : Session) (evaluated code : Except Raised Value × Session)
    (command : Except Raised String × Session) : Prop where
  text : ∀ v t text, evaluated = (.ok v, t) → Worded t v text →
    code = (.ok (.text text), t.back s) ∧ command = (.ok text, t.back s)
  error : ∀ r t, evaluated = (.error r, t) → r.isA "SyntaxError" (t.back s) = false →
    code = (.error r, t.back s) ∧ Fails command

/-- In a command, a content is expanded, and what comes of it is evaluated and put into words. An
expression has the value that it has in code, and statements have none. -/
structure EvaluatedInCommand (n : Nat) (s : Session) (globals : Addr) (c : String) : Prop where
  expanded : ∀ m, Library.expandText m globals (valueLine c) = commandValue m globals c
  expression : ∀ e, Denotes c e → ∀ v t,
    (machine (n + 1)).eval e (s.enter (moduleFrame globals)) = (.ok v, t) →
    evaluateSource (machine (n + 1)) globals c s = (.ok v, t.back s)
  statements : (∃ why, parse .expression (unindented c) = .error why) →
    ∀ m v t, evaluateSource m globals c s = (.ok v, t) → v = .none

/-- In code, a content is nothing but a text. -/
structure StandsForItself (s : Session) (globals : Addr) (c : String) : Prop where
  lowered : ∀ mode ≠ .expression, ∀ defined,
    lower mode defined (valueLine c) = .ok (textCall valueCall c)
  given : ∀ n, evalSource (machine (n + 2)) (moduleFrame globals) (textCall valueCall c) s =
    (.ok (.text c), s.push (.frame (moduleFrame globals)))

variable {s t u : Session} {globals : Addr} {c printed text : String} {e : Expr} {v : Value}

/-- The call for a value breaks no rule that the value does not break. -/
theorem fault?_valueCall (e : Expr) :
    (Program.expression (expansionCall .value e)).fault? = (Program.expression e).fault? := by
  have hsignatures : (expansionCall .value e).signatures = e.signatures := by
    simp [expansionCall, Expr.signatures, signaturesIn, signaturesInKeywords]
  have hflows : (expansionCall .value e).flows = e.flows := by
    simp [expansionCall, Expr.flows, flowsIn, flowsInKeywords]
  simp only [Program.fault?, exprNameFault?, exprFault?, hsignatures, hflows]

theorem evalItems_singleton (h : ∀ e', e ≠ .starred e') (m : Machine) :
    evalItems m [e] = (do return [← m.eval e]) := by
  cases e with
  | starred e' => exact absurd rfl (h e')
  | _ => rfl

section

variable (hvalue : lookupName (s.entries globals) valueCall = some (.builtin "expand_at"))
include hvalue

/-- The value is evaluated and put into words. -/
theorem eval_valueCall (hwhole : ∀ e', e ≠ .starred e') (n : Nat) :
    (machine (n + 2)).eval (expansionCall .value e) (s.enter (moduleFrame globals)) =
      ((machine (n + 1)).eval e >>= fun v => .text <$> Library.commandText (machine n) v)
        (s.enter (moduleFrame globals)) := by
  have hname : (machine (n + 1)).eval (.name valueCall) (s.enter (moduleFrame globals)) =
      (.ok (.builtin "expand_at"), s.enter (moduleFrame globals)) := lookupVar_enter hvalue
  have hcall (v : Value) : (machine (n + 1)).call (.builtin "expand_at") [v] [] =
      .text <$> Library.commandText (machine n) v := rfl
  have heval : (machine (n + 2)).eval = evalExpr (machine (n + 1)) := rfl
  simp only [heval, evalExpr, expansionCall, bind_apply, hname, evalItems_singleton hwhole,
    evalKeywords, pure_apply]
  rcases (machine (n + 1)).eval e (s.enter (moduleFrame globals)) with ⟨r | v, t⟩
  · rfl
  · simp only [hcall]

variable (hdepth : s.depth < 1000)
include hdepth

theorem evalSource_valueCode (hsound : (Program.expression e).fault? = none)
    (hwhole : ∀ e', e ≠ .starred e')
    (hread : parse .expression (valueCode printed) = .ok (.expression (expansionCall .value e)))
    {result : Except Raised Value} (n : Nat)
    (heval : ((machine (n + 1)).eval e >>= fun v => .text <$> Library.commandText (machine n) v)
      (s.enter (moduleFrame globals)) = (result, t)) :
    evalSource (machine (n + 2)) (moduleFrame globals) (valueCode printed) s =
      (result, t.back s) := by
  have hfirst : ∀ d ∈ (valueCode printed).toList.head?, d ≠ ' ' ∧ d ≠ '\t' := by
    simp [valueCode, valueCall]
  rw [evalSource_of_parse _ hdepth hfirst hread ((fault?_valueCall e).trans hsound),
    eval_valueCall hvalue hwhole, heval]

/-- A content that is no expression is given to the call as a text. -/
theorem standsForItself_of_parse (hbalanced : IsBalanced c.toList)
    (h : ∃ why, parse .expression c = .error why) : StandsForItself s globals c where
  lowered mode hmode defined := by
    obtain ⟨why, hwhy⟩ := h
    have hcontent : contentExpr .value c = .constant (.text c false) := by
      simp only [contentExpr, hwhy]
    have hprinted : Printer.plain (.constant (.text c false)) = .ok (Text.quoted c) := by
      simp [Printer.plain, Printer.expr, Quoting.constant, pure, Except.pure]
    exact lower_valueLine hmode hbalanced hcontent hprinted defined
  given n := by
    have hread : parse .expression (valueCode (Text.quoted c)) =
        .ok (.expression (expansionCall .value (.constant (.text c false)))) :=
      parse_textCall (by simp [calledNames]) c
    exact evalSource_valueCode hvalue hdepth rfl (by simp) hread n rfl

end

/-! ## In a command -/

theorem Denotes.evalSource_eq {m : Machine} (h : Denotes c e) (hdepth : s.depth < 1000)
    {result : Except Raised Value}
    (heval : m.eval e (s.enter (moduleFrame globals)) = (result, t)) :
    evalSource m (moduleFrame globals) c s = (result, t.back s) := by
  rw [evalSource_of_parse _ hdepth h.first h.parsed h.sound, heval]

theorem worded_text (t : Session) (text : String) : Worded t (.text text) text :=
  fun m u _ => Library.commandText_text m text u

theorem Fails.bind {α β : Type} {x : Run α} (h : Fails (x s)) (f : α → Run β) :
    Fails ((x >>= f) s) := by
  obtain ⟨r, t, hx⟩ := h
  exact ⟨r, t, by rw [bind_apply, hx]⟩

/-- A computation that goes on with one that fails. -/
theorem fails_bind {α β : Type} {x : Run α} {f : α → Run β} (h : ∀ a t, Fails (f a t))
    (s : Session) : Fails ((x >>= f) s) := by
  rcases hx : x s with ⟨r | a, t⟩
  · exact Fails.bind ⟨r, t, hx⟩ f
  · obtain ⟨r, u, hf⟩ := h a t
    refine ⟨r, u, ?_⟩
    rw [bind_apply, hx]
    exact hf

theorem fails_failValue {α : Type} (message : String) (s : Session) :
    Fails ((failValue message : Run α) s) := ⟨_, _, rfl⟩

variable {m : Machine} {why : Rejection}

theorem fails_compileSource {mode : Mode} (h : parse mode text = .error why) (s : Session) :
    Fails (compileSource mode text s) := by
  unfold compileSource
  rw [h]
  cases why <;> exact ⟨_, _, rfl⟩

theorem fails_evalSource (h : parse .expression (unindented text) = .error why) (f : Frame)
    (s : Session) : Fails (evalSource m f text s) :=
  (fails_compileSource h s).bind _

theorem fails_execSource (h : parse .module text = .error why) (f : Frame) (s : Session) :
    Fails (execSource m f text s) :=
  (fails_compileSource h s).bind _

/-- An error is being handled inside and no longer behind. -/
theorem whileHandling_apply {α : Type} (v : Value) (x : Run α) (s : Session) :
    whileHandling v x s = ((x { s with handling := v :: s.handling }).1,
      { (x { s with handling := v :: s.handling }).2 with handling := s.handling }) := by
  have henter : whileHandling v x s = finallyDo x
      (modify fun t => { t with handling := s.handling })
      { s with handling := v :: s.handling } := rfl
  rw [henter, finallyDo, bind_apply, tryCatch_apply, map_apply]
  rcases x { s with handling := v :: s.handling } with ⟨r | a, t⟩ <;> rfl

theorem fails_whileHandling {α : Type} {x : Run α} (h : ∀ s, Fails (x s)) (v : Value)
    (s : Session) : Fails (whileHandling v x s) := by
  obtain ⟨r, t, hx⟩ := h { s with handling := v :: s.handling }
  exact ⟨r, { t with handling := s.handling }, by rw [whileHandling_apply, hx]⟩

theorem fails_runSource (heval : Fails (evalSource m (moduleFrame globals) text s))
    (hexec : ∀ t, Fails (execSource m (moduleFrame globals) text t)) :
    Fails (runSource m globals text pure s) := by
  obtain ⟨r, t, heval⟩ := heval
  simp only [runSource, catching, tryCatch_apply, bind_apply, heval]
  cases r with
  | exhausted => exact ⟨_, _, rfl⟩
  | exception v =>
    simp only [bind_apply, errorIs_apply]
    split
    · exact fails_whileHandling (fun t => (hexec t).bind _) v t
    · exact ⟨_, _, rfl⟩

theorem fails_evaluateSource (h : Fails (runSource m globals text pure s)) :
    Fails (evaluateSource m globals text s) := by
  obtain ⟨r, t, h⟩ := h
  simp only [evaluateSource, blaming, tryCatch_apply, h]
  cases r with
  | exhausted => exact ⟨_, _, rfl⟩
  | exception v =>
    -- whatever class the error is of, the handler raises another or the same one
    refine fails_bind (fun interrupted t => ?_) t
    cases interrupted with
    | true => exact fails_failValue _ t
    | false =>
      refine fails_bind (fun faulty t => ?_) t
      cases faulty with
      | true => exact fails_bind (fun _ t => fails_failValue _ t) t
      | false =>
        refine fails_bind (fun ordinary t => ?_) t
        cases ordinary with
        | true => exact fails_bind (fun _ t => fails_failValue _ t) t
        | false => exact ⟨_, _, rfl⟩

/-- What is given for statements is nothing. -/
theorem eq_none_of_evaluateSource (h : ∃ why, parse .expression (unindented text) = .error why)
    (hvalue : evaluateSource m globals text s = (.ok v, t)) : v = .none := by
  obtain ⟨why, hwhy⟩ := h
  obtain ⟨r, u, heval⟩ := fails_evalSource (m := m) hwhy (moduleFrame globals) s
  have hrun : runSource m globals text pure s = (.ok v, t) := by
    by_contra hnot
    rcases hresult : runSource m globals text pure s with ⟨r | v', t'⟩
    · obtain ⟨r', u', hfails⟩ := fails_evaluateSource ⟨r, t', hresult⟩
      rw [hvalue] at hfails
      cases hfails
    · rw [evaluateSource, blaming, tryCatch_apply, hresult] at hvalue
      exact hnot (hresult.trans hvalue)
  simp only [runSource, catching, tryCatch_apply, bind_apply, heval] at hrun
  cases r with
  | exhausted => cases hrun
  | exception x =>
    simp only [bind_apply, errorIs_apply] at hrun
    split at hrun
    · rw [whileHandling_apply, bind_apply] at hrun
      have hlast := congrArg Prod.fst hrun
      dsimp only at hlast
      split at hlast
      · cases hlast
        rfl
      · cases hlast
    · cases hrun

theorem Library.expandText_of_plain (h : expansions c.toList = []) (s : Session) :
    Library.expandText m globals c s = (.ok c, s) := by
  rw [Library.expandText, bind_apply, Shell.Performer.expand_of_plain _ h]
  simp only [pure_apply, String.ofList_toList]

/-- A command that is a value and nothing else. -/
theorem Library.expandText_valueLine_eq (hbalanced : IsBalanced c.toList) (m : Machine) :
    Library.expandText m globals (valueLine c) = commandValue m globals c := by
  let e : Expansion := ⟨.value, c.toList, 0, c.toList.length + 3⟩
  have hone : expansions (valueLine c).toList = [e] := by
    have hone := expansions_append_text (a := []) (by simp [Plain]) hbalanced .value
    rw [toList_valueLine]
    simpa [e, Sigil.char] using hone
  have hbehind : (valueLine c).toList.drop e.stop = [] := by
    simp [toList_valueLine, e]
  have hexpand : (Library.performer m globals).expand (valueLine c).toList =
      (Library.performer m globals).evaluate e := by
    rw [Shell.Performer.expand_eq_weave, hone]
    simp [Shell.Performer.weave, hbehind, e]
  have hvalue (content : List Char) :
      String.ofList <$> (Library.performer m globals).perform .value content =
        Library.evaluateText m globals content := by
    rw [Library.perform_value, Functor.map_map]
    simp
  have hbody : String.ofList <$> ((Library.performer m globals).expand c.toList >>=
      (Library.performer m globals).perform .value) = (do
        let content ← Library.expandText m globals c
        Library.commandText m (← evaluateSource m globals content)) := by
    simp only [map_bind, hvalue, Library.expandText, bind_assoc, pure_bind]
    rfl
  have hreport (r : Raised) : String.ofList <$> ((Library.performer m globals).report .value
      c.toList r >>= throw) = ((Library.performer m globals).report .value c.toList r >>= throw) := by
    rw [map_bind]
    rfl
  have htext : Library.expandText m globals (valueLine c) =
      String.ofList <$> (Library.performer m globals).evaluate e := by
    rw [Library.expandText, hexpand, map_eq_pure_bind]
  rw [htext, Shell.Performer.evaluate, Shell.Performer.evaluateWith, map_tryCatch]
  simp only [e, hbody, hreport]
  rfl

/-- A command fails if its value does. -/
theorem Library.fails_expandText (hbalanced : IsBalanced c.toList)
    (hplain : expansions c.toList = []) (h : Fails (evaluateSource m globals c s)) :
    Fails (Library.expandText m globals (valueLine c) s) := by
  obtain ⟨r, t, h⟩ := h
  rw [Library.expandText_valueLine_eq hbalanced, commandValue, tryCatch_apply, bind_apply,
    Library.expandText_of_plain hplain]
  have hvalue : (evaluateSource m globals c >>= Library.commandText m) s = (.error r, t) := by
    rw [bind_apply, h]
  simp only [hvalue]
  exact fails_bind (f := throw) (fun r t => ⟨r, t, rfl⟩) t

theorem Library.expandText_valueLine (hbalanced : IsBalanced c.toList)
    (hplain : expansions c.toList = []) (heval : evaluateSource m globals c s = (.ok v, t))
    (hwords : Library.commandText m v t = (.ok text, u)) :
    Library.expandText m globals (valueLine c) s = (.ok text, u) := by
  rw [Library.expandText_valueLine_eq hbalanced, commandValue, tryCatch_apply, bind_apply,
    Library.expandText_of_plain hplain]
  simp only [bind_apply, heval, hwords]

/-- Blanks in front of code do not count when it is evaluated. -/
theorem evalSource_indented {blanks rest : List Char} (h : IsIndentation blanks)
    (hc : c.toList = blanks ++ rest) (f : Frame) :
    evalSource m f c = evalSource m f (String.ofList rest) := by
  have hblanks : ∀ d ∈ blanks, (d == ' ' || d == '\t') = true := by
    intro d hd
    simpa using h d hd
  rw [evalSource, unindented, hc, List.dropWhile_append_of_pos hblanks, evalSource, unindented,
    String.toList_ofList]

/-- A command fails if its value is no program. -/
theorem Library.fails_expandText_of_parse (hbalanced : IsBalanced c.toList)
    (hexpression : ∃ why, parse .expression (unindented c) = .error why)
    (hmodule : ∃ why, parse .module c = .error why) (hplain : expansions c.toList = [])
    (m : Machine) (s : Session) : Fails (Library.expandText m globals (valueLine c) s) := by
  obtain ⟨why, hexpression⟩ := hexpression
  obtain ⟨why', hmodule⟩ := hmodule
  apply Library.fails_expandText hbalanced hplain
  exact fails_evaluateSource (fails_runSource (fails_evalSource hexpression _ s)
    fun t => fails_execSource hmodule _ t)

theorem parse_of_nul {mode : Mode} (h : '\x00' ∈ text.toList) : parse mode text = .error .nul := by
  have hnul : text.toList.contains '\x00' = true := by simpa using h
  unfold parse Code.read
  simp only [hnul]
  rfl

theorem nul_mem_unindented (h : '\x00' ∈ c.toList) : '\x00' ∈ (unindented c).toList := by
  rw [← List.takeWhile_append_dropWhile (p := fun d => d == ' ' || d == '\t') (l := c.toList),
    List.mem_append] at h
  rcases h with h | h
  · have hblank := List.mem_takeWhile_imp h
    simp at hblank
  · rwa [unindented, String.toList_ofList]

/-- A name denotes a variable, and is printed as it stands. -/
theorem denotes_name (h : IsIdentifier c) : Denotes c (.name c) where
  parsed := h.parse_eq
  sound := rfl
  whole := by simp
  first := h.ne_blank_of_mem_head?

theorem prints_name (h : IsIdentifier c) : Prints (.name c) c where
  plain := rfl
  read := parse_nameCall (by simp [calledNames]) h

section

variable (hbalanced : IsBalanced c.toList) (hdepth : s.depth < 1000)
  (hvalue : lookupName (s.entries globals) valueCall = some (.builtin "expand_at"))
include hbalanced hdepth hvalue

/-- An expression without expansions is evaluated once, wherever it is asked for. -/
theorem agree_of_denotes (hdenotes : Denotes c e) (hprints : Prints e printed)
    (hplain : expansions c.toList = []) (n : Nat) :
    Agree s ((machine (n + 1)).eval e (s.enter (moduleFrame globals)))
      (evalSource (machine (n + 2)) (moduleFrame globals) (valueCode printed) s)
      (Library.expandText (machine (n + 1)) globals (valueLine c) s) := by
  constructor
  case text =>
    intro v t text heval hworded
    refine ⟨?_, Library.expandText_valueLine hbalanced hplain
      (evaluateSource_of_ok (hdenotes.evalSource_eq hdepth heval)) (hworded _ _ rfl)⟩
    apply evalSource_valueCode hvalue hdepth hdenotes.sound hdenotes.whole hprints.read n
    simp only [bind_apply, heval, map_apply, hworded (machine n) t rfl]
  case error =>
    intro r t heval hclass
    refine ⟨?_, Library.fails_expandText hbalanced hplain ?_⟩
    · apply evalSource_valueCode hvalue hdepth hdenotes.sound hdenotes.whole hprints.read n
      simp only [bind_apply, heval]
    · exact fails_evaluateSource ⟨r, _, runSource_of_error (hdenotes.evalSource_eq hdepth heval) hclass⟩

/-- A value means the same in code and in a command if it is an expression without expansions in it,
such as a name.
In code, all else stands for itself, and so do an expression with blanks in front of it and anything
that starts with an expansion. A command evaluates an expression with blanks in front of it, and fails
if the content is no program.
The call that an expression becomes in code evaluates it and puts its value into words, whatever
making these words runs. A command does the same with what the content is expanded to. -/
theorem value_agree_or_standsForItself (n : Nat) :
    (IsIdentifier c → Denotes c (.name c) ∧ Prints (.name c) c) ∧
    (∀ e printed, Denotes c e → Prints e printed →
      (∀ mode ≠ .expression, ∀ defined,
        lower mode defined (valueLine c) = .ok (valueCode printed)) ∧
      (expansions c.toList = [] →
        Agree s ((machine (n + 1)).eval e (s.enter (moduleFrame globals)))
          (evalSource (machine (n + 2)) (moduleFrame globals) (valueCode printed) s)
          (Library.expandText (machine (n + 1)) globals (valueLine c) s))) ∧
    ((∃ why, parse .expression c = .error why) → StandsForItself s globals c) ∧
    (∀ blanks d rest, c.toList = blanks ++ d :: rest → IsIndentation blanks → blanks ≠ [] →
      StartsCode d → '\x00' ∉ c.toList → StandsForItself s globals c ∧
      ∀ e v t text, Denotes (String.ofList (d :: rest)) e → expansions c.toList = [] →
        (machine (n + 1)).eval e (s.enter (moduleFrame globals)) = (.ok v, t) → Worded t v text →
        Library.expandText (machine (n + 1)) globals (valueLine c) s = (.ok text, t.back s)) ∧
    (∀ (sigil : Sigil) rest, c.toList = sigil.char :: '(' :: rest → '\x00' ∉ c.toList →
      StandsForItself s globals c) ∧
    ('\x00' ∈ c.toList → StandsForItself s globals c ∧
      (expansions c.toList = [] →
        Fails (Library.expandText (machine (n + 1)) globals (valueLine c) s))) ∧
    ((∃ why, parse .expression (unindented c) = .error why) →
      (∃ why, parse .module c = .error why) → expansions c.toList = [] →
      Fails (Library.expandText (machine (n + 1)) globals (valueLine c) s)) ∧
    (∀ e, Denotes c e →
      (machine (n + 2)).eval (expansionCall .value e) (s.enter (moduleFrame globals)) =
        ((machine (n + 1)).eval e >>= fun v => .text <$> Library.commandText (machine n) v)
          (s.enter (moduleFrame globals))) ∧
    EvaluatedInCommand n s globals c := by
  have hitself := standsForItself_of_parse hvalue hdepth hbalanced
  refine ⟨fun h => ⟨denotes_name h, prints_name h⟩, ?_, hitself, ?_, ?_, ?_, ?_, ?_, ?_⟩
  · intro e printed hdenotes hprints
    refine ⟨fun mode hmode defined => ?_, fun hplain => ?_⟩
    · have hcontent : contentExpr .value c = e := by
        simp only [contentExpr, hdenotes.parsed]
      exact lower_valueLine hmode hbalanced hcontent hprints.plain defined
    · exact agree_of_denotes hbalanced hdepth hvalue hdenotes hprints hplain n
  · intro blanks d rest hc hblanks hne hd hnul
    refine ⟨hitself ?_, ?_⟩
    · rw [← String.ofList_toList (s := c), hc]
      obtain ⟨f, hf⟩ := exists_parse_of_indented hblanks hne hd (hc ▸ hnul)
      exact ⟨_, hf⟩
    · intro e v t text hdenotes hplain heval hworded
      refine Library.expandText_valueLine hbalanced hplain (evaluateSource_of_ok ?_)
        (hworded _ _ rfl)
      rw [evalSource_indented hblanks hc, hdenotes.evalSource_eq hdepth heval]
  · intro sigil rest hc hnul
    apply hitself
    rw [← String.ofList_toList (s := c), hc]
    obtain ⟨f, hf⟩ := exists_parse_of_sigil (by cases sigil <;> simp [Sigil.char]) (hc ▸ hnul)
    exact ⟨_, hf⟩
  · intro hnul
    refine ⟨hitself ⟨.nul, parse_of_nul hnul⟩, fun hplain => ?_⟩
    exact Library.fails_expandText_of_parse hbalanced
      ⟨.nul, parse_of_nul (nul_mem_unindented hnul)⟩ ⟨.nul, parse_of_nul hnul⟩ hplain _ s
  · intro hexpression hmodule hplain
    exact Library.fails_expandText_of_parse hbalanced hexpression hmodule hplain _ s
  · exact fun e hdenotes => eval_valueCall hvalue hdenotes.whole n
  · exact {
      expanded := Library.expandText_valueLine_eq hbalanced
      expression := fun e hdenotes v t heval =>
        evaluateSource_of_ok (hdenotes.evalSource_eq hdepth heval)
      statements := fun h m v t => eq_none_of_evaluateSource h }

end

/-- A session in which `x` is `v`. -/
def boundSession : Session :=
  let start := Conch.Session.initial (World.Setup.plain ["ROOT"]).world
  start.put 0 (.dict (setName "x" (.text "v") (start.entries 0)))

theorem x_agree_indented_standsForItself :
    evalSource (machine 2) (moduleFrame 0) "__expand_at(x)" boundSession =
      (.ok (.text "v"), boundSession.push (.frame (moduleFrame 0))) ∧
    Library.expandText (machine 1) 0 "@(x)" boundSession =
      (.ok "v", boundSession.push (.frame (moduleFrame 0))) ∧
    evalSource (machine 2) (moduleFrame 0) "__expand_at(' x')" boundSession =
      (.ok (.text " x"), boundSession.push (.frame (moduleFrame 0))) ∧
    Library.expandText (machine 1) 0 "@( x)" boundSession =
      (.ok "v", boundSession.push (.frame (moduleFrame 0))) ∧
    lower .module (fun _ => false) "@(@(x))" = .ok "__expand_at('@(x)')" := by
  have hdepth : boundSession.depth < 1000 := by decide
  have hvalue : lookupName (boundSession.entries 0) valueCall = some (.builtin "expand_at") := rfl
  have hx : IsIdentifier "x" := ⟨by decide, by decide⟩
  have heval : (machine 1).eval (.name "x") (boundSession.enter (moduleFrame 0)) =
      (.ok (.text "v"), boundSession.enter (moduleFrame 0)) := lookupVar_enter rfl
  have hworded := worded_text (boundSession.enter (moduleFrame 0)) "v"
  obtain ⟨hname, hagree, -⟩ := value_agree_or_standsForItself (c := "x") rfl hdepth hvalue 0
  obtain ⟨-, -, -, hindented, -⟩ := value_agree_or_standsForItself (c := " x") rfl hdepth hvalue 0
  obtain ⟨-, -, -, -, hnested, -⟩ :=
    value_agree_or_standsForItself (c := "@(x)") rfl hdepth hvalue 0
  obtain ⟨hdenotes, hprints⟩ := hname hx
  obtain ⟨hcode, hcommand⟩ := ((hagree _ _ hdenotes hprints).2 rfl).text _ _ _ heval hworded
  obtain ⟨hitself, hcommand'⟩ := hindented [' '] 'x' [] rfl (by simp [IsIndentation]) (by simp)
    (by simp [StartsCode]) (by simp)
  have hnested := hnested .value _ rfl (by simp)
  exact ⟨hcode, hcommand, hitself.given 0, hcommand' _ _ _ _ hdenotes rfl heval hworded,
    hnested.lowered _ (by simp) _⟩

end Conch.Eval
