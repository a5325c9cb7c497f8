import Mathlib
import Conch.Proofs.Code.Program
import Conch.Proofs.Eval.CapturedLines
import Conch.Proofs.Eval.Scopes
import Conch.Proofs.Eval.ValueExpansion
import Conch.Proofs.Line.Chain
import Conch.Proofs.Line.Pipeline

/-!
# Variables in captured commands

Code that captures `echo @(x)` gets the value of its variable `x` back if the value is a plain word
and the layer that the code stands in shows the variable to commands. A variable of a layer further
out that the layer does not mention is missed: the command is given the module's variable of that
name, or fails for want of one.
-/

namespace Conch.Shell

open World Line Effect

/-- A text that a command takes as it is. -/
structure IsPlainWord (v : String) : Prop where
  noBlank : ∀ c ∈ v.toList, Text.isBlank c = false
  noMark : ∀ c ∈ v.toList, c ∉ ['\'', '"', '\\', '|', '>']

/-- What is left of a text that is echoed and captured. -/
def echoed (w : World) (v : String) : String := Text.strip (w.expandHome v ++ "\n")

variable {v : String} {w : World}

theorem IsPlainWord.not_mem (h : IsPlainWord v) {c : Char}
    (hc : c ∈ ['\'', '"', '\\', '|', '>']) : c ∉ v.toList := fun hmem => h.noMark c hmem hc

theorem IsPlainWord.not_mem_operatorWords (h : IsPlainWord v) : v ∉ operatorWords := by
  have hmark : ∀ word ∈ operatorWords, ∃ c ∈ word.toList, c ∈ ['|', '>'] := by
    simp [operatorWords]
  intro hmem
  obtain ⟨c, hc, hmarks⟩ := hmark v hmem
  exact h.not_mem (List.mem_append_right ['\'', '"', '\\'] hmarks) hc

theorem dropWhile_isBlank_eq_self {s : List Char} (h : ∀ c ∈ s, Text.isBlank c = false) :
    s.dropWhile Text.isBlank = s := by
  cases s with
  | nil => rfl
  | cons c s => rw [List.dropWhile_cons_of_neg (by simp [h c])]

theorem expandHome_eq_self (h : v.toList.head? ≠ some '~') : w.expandHome v = v := by
  unfold World.expandHome Path.expandHome
  split
  next rest hv => simp [hv] at h
  next => rfl

/-- A plain word is echoed as it is unless it stands for a home directory. -/
theorem echoed_eq_self (h : IsPlainWord v) (hhome : w.expandHome v = v) : echoed w v = v := by
  have htrim : Text.trim v.toList = v.toList := by
    rw [Text.trim, Text.trimLeft, dropWhile_isBlank_eq_self h.noBlank, Text.trimRight,
      dropWhile_isBlank_eq_self (by simpa using h.noBlank), List.reverse_reverse]
  have hnewline : ∀ c ∈ ['\n'], Text.isBlank c = true := by simp [Text.isBlank]
  rw [echoed, hhome, Text.strip, String.toList_append]
  by_cases hv : v.toList = []
  · rw [String.toList_eq_nil_iff.mp hv]
    rfl
  · have hpad := trim_pad (a := []) (by simp) hnewline hv htrim
    rw [List.nil_append] at hpad
    rw [show "\n".toList = ['\n'] from rfl, hpad, String.ofList_toList]

theorem startsRedirect_of_not_mem {s : List Char} (h : '>' ∉ s) : startsRedirect s = false := by
  unfold startsRedirect
  split <;> dsimp only <;> split <;> simp_all

theorem hasRedirect_of_not_mem {s : List Char} (h : '>' ∉ s) : hasRedirect s = false := by
  induction s with
  | nil => rfl
  | cons c s ih =>
    have hs : '>' ∉ s := fun hmem => h (List.mem_cons_of_mem c hmem)
    rw [hasRedirect, startsRedirect_of_not_mem hs, ih hs, Bool.and_false, Bool.or_false]

/-- The words that a plain word is read as: an empty one is not there. -/
def plainWords (v : String) : List String := if v = "" then [] else [v]

theorem isGap_of_isBlank {c : Char} (h : Text.isBlank c = false) : isGap c = false := by
  have hne (d : Char) (hd : Text.isBlank d = true) : c ≠ d := by
    rintro rfl
    rw [h] at hd
    cases hd
  simp [isGap, hne ' ' (by decide), hne '\t' (by decide), hne '\r' (by decide),
    hne '\n' (by decide)]

theorem readWords_plainWords (h : IsPlainWord v) :
    readWords .gap [] v.toList = .ok ((plainWords v).map String.toList) := by
  have hplain : ∀ c ∈ v.toList, isGap c = false ∧ c ≠ '\\' ∧ c ≠ '\'' ∧ c ≠ '"' := by
    intro c hc
    have hmark := h.noMark c hc
    simp only [List.mem_cons, not_or] at hmark
    exact ⟨isGap_of_isBlank (h.noBlank c hc), hmark.2.2.1, hmark.1, hmark.2.1⟩
  cases hv : v.toList with
  | nil =>
    obtain rfl := String.toList_eq_nil_iff.mp hv
    rfl
  | cons c r =>
    have hne : v ≠ "" := by
      rintro rfl
      cases hv
    rw [hv] at hplain
    obtain ⟨hgap, hescape, hsingle, hdouble⟩ := hplain c List.mem_cons_self
    have hfirst : readWords .gap [] (c :: r) = readWords .word [c] r := by
      simp [readWords, hgap, hescape, hsingle, hdouble]
    have hrest := readWords_plain (fun d hd => hplain d (List.mem_cons_of_mem c hd)) [c] []
    rw [List.append_nil] at hrest
    rw [hfirst, hrest, plainWords, if_neg hne, List.map_singleton, hv]
    simp [readWords]

theorem pipeline_echo (h : IsPlainWord v) :
    pipeline ("echo " ++ v) = [⟨"echo" :: plainWords v, [], []⟩] := by
  have hread : readWords .gap [] ("echo " ++ v).toList =
      .ok (("echo" :: plainWords v).map String.toList) := by
    have hecho : readWords .gap [] ("echo".toList ++ ' ' :: v.toList) =
        (readWords .gap [] v.toList).map ("echo".toList :: ·) := by
      simp [readWords, isGap]
    rw [String.toList_append, show "echo ".toList ++ v.toList = "echo".toList ++ ' ' :: v.toList by
      simp, hecho, readWords_plainWords h]
    rfl
  have hwords : commandWords ("echo " ++ v).toList =
      ("echo" :: plainWords v).map String.toList := by
    rw [commandWords, quotedWords, hread]
  have hplain : ∀ w ∈ "echo" :: plainWords v, w ∉ operatorWords := by
    have hecho : "echo" ∉ operatorWords := by decide
    unfold plainWords
    split <;> simp [hecho, h.not_mem_operatorWords]
  have hstages : splitStages ("echo" :: plainWords v) = ["echo" :: plainWords v] := by
    have hbar : ∀ ws ∈ ["echo" :: plainWords v], "|" ∉ ws := by
      intro ws hws hmem
      rw [List.mem_singleton.mp hws] at hmem
      exact hplain _ hmem (by decide)
    have hsplit := splitStages_intercalate (by simp) hbar
    rwa [List.intercalate_singleton] at hsplit
  rw [pipeline, hwords, pipelineOfWords, List.map_map]
  simp only [Function.comp_def, String.ofList_toList, List.map_id', hstages, List.map_singleton]
  rw [ofWords_of_plain fun w hw => (not_mem_operatorWords_iff.mp (hplain w hw)).2]

theorem capture_echo (h : IsPlainWord v) (w : World) :
    capture ("echo " ++ v) w = (.ok ⟨0, w.expandHome v ++ "\n", ""⟩, w) := by
  have hargs : " ".intercalate ((plainWords v).map w.expandHome) = w.expandHome v := by
    unfold plainWords
    split
    next hv =>
      rw [hv]
      rfl
    next => simp
  have hrun : Builtin.echo.run (stageArgs ⟨"echo" :: plainWords v, [], []⟩ w) w =
      (.printing (w.expandHome v ++ "\n") 0, w) := by
    rw [← hargs]
    rfl
  have hname : Builtin.ofName? "echo" = some .echo := by decide
  have hecho : builtin? ⟨"echo" :: plainWords v, [], []⟩ = some .echo := hname
  rw [capture_of_stage (pipeline_echo h), captureSingle_builtin rfl rfl hecho hrun]
  exact congrArg _ (printOut_nil w)

/-- A plain word that is echoed comes back. -/
theorem invoke_echo (h : IsPlainWord v) (w : World) :
    invoke .output ("echo " ++ v) w = (.ok (.text (echoed w v)), w) := by
  have hline : '\n' ∉ ("echo " ++ v).toList := by
    have hv : '\n' ∉ v.toList := fun hmem => by simpa [Text.isBlank] using h.noBlank _ hmem
    simpa using hv
  have hredirect : '>' ∉ ("echo " ++ v).toList := by simpa using h.not_mem (by simp)
  have hinvoke : invoke .output ("echo " ++ v) = invokeLine .output ("echo " ++ v) := by
    rw [invoke, List.contains_eq_mem, decide_eq_false hline]
    rfl
  rw [hinvoke, invokeLine_of_not_hasRedirect (.inl rfl) (hasRedirect_of_not_mem hredirect),
    map_apply, capture_echo h]
  rfl

end Conch.Shell

namespace Conch.Eval

open Effect Code Line
open Shell (IsPlainWord echoed)

variable {s t : Session} {globals : Addr} {x v : String} {n : Nat}

/-- What is said of a name that nobody knows. -/
def unknown (x : String) : String := "name '" ++ x ++ "' is not defined"

theorem fail_unbound (x : String) (s : Session) :
    (fail (.unbound x) : Run Value) s =
      (.error (.exception (.ref s.store.size)), s.push (errorObject "NameError" (unknown x))) := by
  have hargs : messageArgs (unknown x) = [.text (unknown x)] := by
    rw [unknown, messageArgs, if_neg]
    simp
  have hfail : (fail (.unbound x) : Run Value) =
      (do raise (← makeError "NameError" (messageArgs (unknown x)))) := rfl
  rw [hfail, hargs]
  rfl

section

variable (hx : IsIdentifier x) (hdepth : s.depth < 1000)
include hx hdepth

theorem evalSource_name (n : Nat) :
    evalSource (machine (n + 1)) (moduleFrame globals) x s =
      ((lookupVar x (s.enter (moduleFrame globals))).1,
        (lookupVar x (s.enter (moduleFrame globals))).2.back s) :=
  evalSource_of_parse _ hdepth hx.ne_blank_of_mem_head? hx.parse_eq rfl

theorem evaluateText_name (h : lookupName (s.entries globals) x = some (.text v)) (n : Nat) :
    Library.evaluateText (machine (n + 1)) globals x.toList s =
      (.ok v, s.push (.frame (moduleFrame globals))) := by
  have heval : evalSource (machine (n + 1)) (moduleFrame globals) x s =
      (.ok (.text v), s.push (.frame (moduleFrame globals))) := by
    rw [evalSource_name hx hdepth, lookupVar_enter h]
    rfl
  rw [Library.evaluateText, bind_apply, String.ofList_toList, evaluateSource_of_ok heval]
  rfl

/-- A name that nobody knows is met with an error that says so. -/
theorem exists_evaluateText_unbound (h : lookupName (s.entries globals) x = none)
    (hbuiltin : builtinValue? x = none) (n : Nat) :
    ∃ a t, Library.evaluateText (machine (n + 1)) globals x.toList s =
        (.error (.exception (.ref a)), t) ∧ GoesOn s t ∧ t.world = s.world ∧
      object a t = (.ok (errorObject "ValueError"
        ("Error evaluating '" ++ x ++ "': " ++ unknown x)), t) := by
  let u := s.push (.frame (moduleFrame globals))
  let o := errorObject "NameError" (unknown x)
  have hlookup : lookupVar x (s.enter (moduleFrame globals)) =
      (.error (.exception (.ref u.store.size)), (s.enter (moduleFrame globals)).push o) := by
    have hmodule : (moduleFrame globals).kind = .module := rfl
    have hglobals : (moduleFrame globals).globals = globals := rfl
    simp only [lookupVar, bind_apply, currentFrame_enter, hmodule, if_pos, hglobals, lookupGlobal,
      getGlobal?_apply, entries_enter, h, hbuiltin, fail_unbound]
    rfl
  have heval : evalSource (machine (n + 1)) (moduleFrame globals) x s =
      (.error (.exception (.ref u.store.size)), u.push o) := by
    rw [evalSource_name hx hdepth, hlookup]
    rfl
  have hobject := object_push u o
  have hmessage := formatted_errorObject (isPlainError_of_mem (by simp)) hobject (machine (n + 1))
  obtain ⟨hordinary, hclass, hinterrupt⟩ := isA_of_mem (by simp) hobject
  have hevaluate := evaluateSource_of_ordinary (runSource_of_error heval hclass) hclass hinterrupt
    hordinary hmessage
  have hgoes : GoesOn s (u.push o) := (goesOn_push s _).trans (goesOn_push u o)
  refine ⟨_, _, ?_, hgoes.trans (goesOn_push _ _), rfl, object_push (u.push o) _⟩
  rw [Library.evaluateText, bind_apply, String.ofList_toList, hevaluate]

end

/-- The command that code shows a variable with. -/
def echoOf (x : String) : String := "echo @(" ++ x ++ ")"

theorem plain_echo : Plain "echo ".toList := by
  have hplain : ∀ c ∈ "echo ".toList, c ≠ '(' ∧ c ≠ ')' ∧ c ≠ '@' ∧ c ≠ '$' ∧ c ≠ '!' := by simp
  intro c hc
  obtain ⟨hopen, hclose, hvalue, houtput, houtcome⟩ := hplain c hc
  exact ⟨hopen, hclose, fun sigil => by cases sigil <;> assumption⟩

theorem toList_echoOf (x : String) :
    (echoOf x).toList = "echo ".toList ++ '@' :: '(' :: (x.toList ++ [')']) := by
  simp [echoOf]

/-- Code gets a text, and nothing else happens. -/
def GetsText (s : Session) (outcome : Except Raised Value × Session) (text : String) : Prop :=
  ∃ t, outcome = (.ok (.text text), t) ∧ GoesOn s t ∧ t.world = s.world

/-- Code fails with an error, and nothing else happens. -/
def FailsWith (s : Session) (outcome : Except Raised Value × Session) (message : String) : Prop :=
  ∃ a t, outcome = (.error (.exception (.ref a)), t) ∧ GoesOn s t ∧ t.world = s.world ∧
    object a t = (.ok (errorObject "RuntimeError" message), t)

section

variable (hx : IsIdentifier x) (hdepth : s.depth < 1000) {f : Frame} {vars : List (Value × Value)}
  (hframe : currentFrame s = (.ok f, s)) (hvars : visibleVars f s = (.ok vars, s))
include hx hdepth hframe hvars

theorem getsText_runCommand (h : lookupName vars x = some (.text v)) (hv : IsPlainWord v) (n : Nat) :
    GetsText s (Library.runCommand (machine (n + 1)) (echoOf x) .output s) (echoed s.world v) := by
  let u := s.push (.dict vars)
  have hentries : u.entries s.store.size = vars := by
    simp [u, Session.entries, Session.push, Object.entries]
  have htext := evaluateText_name (s := u) hx hdepth (by rw [hentries, h]) n
  have hexpand := Library.expandText_of_ok plain_echo (isBalanced_of_plain hx.plain)
    (expansionsFrom_plain hx.plain 0 0) (toList_echoOf x) htext
  have halloc : alloc (.dict vars) s = (.ok s.store.size, u) := rfl
  have hinvoke := act_of_ok (s := u.push (.frame (moduleFrame s.store.size)))
    (Shell.invoke_echo hv s.world)
  refine ⟨u.push (.frame (moduleFrame s.store.size)), ?_,
    (goesOn_push s _).trans (goesOn_push u _), rfl⟩
  simp only [Library.runCommand, bind_apply, hframe, hvars, halloc, hexpand, String.ofList_toList,
    hinvoke]
  rfl

theorem failsWith_runCommand (h : lookupName vars x = none) (hbuiltin : builtinValue? x = none)
    (n : Nat) :
    FailsWith s (Library.runCommand (machine (n + 1)) (echoOf x) .output s)
      ("@(" ++ x ++ "): " ++ unknown x) := by
  let u := s.push (.dict vars)
  have hentries : u.entries s.store.size = vars := by
    simp [u, Session.entries, Session.push, Object.entries]
  obtain ⟨a, t, htext, hgoes, hworld, hobject⟩ :=
    exists_evaluateText_unbound (s := u) hx hdepth (by rw [hentries, h]) hbuiltin n
  have hexpand := Library.expandText_of_error plain_echo (isBalanced_of_plain hx.plain)
    (expansionsFrom_plain hx.plain 0 0) (toList_echoOf x) htext
  have hmessage : String.ofList (Library.expansionMessage .value x.toList
      ("Error evaluating '" ++ x ++ "': " ++ unknown x).toList) =
      "@(" ++ x ++ "): " ++ unknown x := by
    have hplain : ¬ ": ".toList <:+: x.toList := fun hinside =>
      hx.not_mem (d := ':') rfl (hinside.subset (by simp))
    rw [Library.expansionMessage, Library.innerMessage_evaluating hplain]
    apply String.toList_inj.mp
    simp [Sigil.char]
  have hordinary := (isA_of_mem (by simp) hobject).1
  have hdisplay := display_errorObject (isPlainError_of_mem (by simp)) hobject (machine (n + 1))
  rw [Library.performer, Library.reported_of_display_ok _ _ _ hordinary hdisplay, hmessage] at hexpand
  have halloc : alloc (.dict vars) s = (.ok s.store.size, u) := rfl
  refine ⟨_, _, ?_, ((goesOn_push s _).trans hgoes).trans (goesOn_push t _), hworld,
    object_push t _⟩
  simp only [Library.runCommand, bind_apply, hframe, hvars, halloc, hexpand]
  rfl

end

theorem eval_capture (hshell : lookupVar shellCall s = (.ok (.builtin "shell"), s)) (text : String)
    (n : Nat) :
    (machine (n + 2)).eval (expansionCall .output (.constant (.text text false))) s =
      Library.runCommand (machine n) text .output s := by
  have hname : (machine (n + 1)).eval (.name shellCall) s = (.ok (.builtin "shell"), s) := hshell
  have hconstant (c : String) : (machine (n + 1)).eval (.constant (.text c false)) =
      pure (.text c) := rfl
  have hargs : evalItems (machine (n + 1)) [.constant (.text text false)] = pure [.text text] := by
    simp only [evalItems, hconstant, pure_bind]
  have hkeywords : evalKeywords (machine (n + 1)) []
      [.named "capture" (.constant (.text "stdout" false))] =
      pure (captureKeyword .output) := by
    simp only [evalKeywords, hconstant, pure_bind]
    rfl
  have hcall : (machine (n + 2)).eval (expansionCall .output (.constant (.text text false))) s =
      (machine (n + 1)).call (.builtin "shell") [.text text] (captureKeyword .output) s := by
    have heval : (machine (n + 2)).eval = evalExpr (machine (n + 1)) := rfl
    simp only [heval, evalExpr, expansionCall, captureCall, bind_apply, hname, hargs, hkeywords,
      pure_apply]
  exact hcall

/-- The code `$(echo @(x))` for a name `x`, as expansions in code are made into calls. -/
def echoing (x : String) : Expr := expansionCall .output (contentExpr .output (echoOf x))

theorem eval_echoing (hshell : lookupVar shellCall s = (.ok (.builtin "shell"), s)) (n : Nat) :
    (machine (n + 2)).eval (echoing x) s = Library.runCommand (machine n) (echoOf x) .output s :=
  eval_capture hshell (echoOf x) n

/-- Code gets the value of a variable back from a command that shows it, if the value is a plain word
and the layer that the code stands in shows the variable. Otherwise the command is given the module's
variable of that name, or fails for want of one, though the code itself sees another. -/
theorem capture_echo_of_within {layers : List Layer}
    (hwithin : Within s globals layers s.frame) (hdepth : s.depth < 1000)
    (hshell : lookupVar shellCall s = (.ok (.builtin "shell"), s))
    (hx : IsIdentifier x) (hv : IsPlainWord v) (hvalue : lookupVar x s = (.ok (.text v), t))
    (n : Nat) :
    (Layer.Shows x layers →
      GetsText s ((machine (n + 3)).eval (echoing x) s) (echoed s.world v)) ∧
    (¬ Layer.Shows x layers → ∀ u, lookupName (s.entries globals) x = some (.text u) →
      IsPlainWord u → GetsText s ((machine (n + 3)).eval (echoing x) s) (echoed s.world u)) ∧
    (¬ Layer.Shows x layers → lookupName (s.entries globals) x = none → builtinValue? x = none →
      FailsWith s ((machine (n + 3)).eval (echoing x) s) ("@(" ++ x ++ "): " ++ unknown x)) ∧
    (v.toList.head? ≠ some '~' → echoed s.world v = v) := by
  obtain ⟨f, vars, hframe, -, hvars, hshown, hmissed⟩ := hwithin.exists_visibleVars hvalue
  rw [eval_echoing hshell]
  refine ⟨?_, ?_, ?_, ?_⟩
  · intro hshows
    exact getsText_runCommand hx hdepth hframe hvars (hshown hshows) hv n
  · intro hhidden u hu hplain
    exact getsText_runCommand hx hdepth hframe hvars ((hmissed hhidden).trans hu) hplain n
  · intro hhidden hnone hbuiltin
    exact failsWith_runCommand hx hdepth hframe hvars ((hmissed hhidden).trans hnone) hbuiltin n
  · intro hhome
    exact Shell.echoed_eq_self hv (Shell.expandHome_eq_self hhome)

/-- The code `lambda: $(echo @(x))`, and `lambda x: (lambda: $(echo @(x)))()` around it. -/
def innerLayer : Layer := .lambda (.mk [] [] none [] none) (echoing "x")

def outerLayer : Layer :=
  .lambda (.mk [] [.mk "x" none none] none [] none)
    (.call (.lambda (.mk [] [] none [] none) (echoing "x")) [] [])

/-- A session in the outer function, which was called with `v`, and then in the inner one. -/
def outerSession : Session :=
  (Conch.Session.initial (World.Setup.plain ["ROOT"]).world).enter
    ⟨.function, 0, some 1, [("x", .text "v")], outerLayer.scope, [], none, "<lambda>.<locals>."⟩

def innerSession : Session :=
  outerSession.enter
    ⟨.function, 0, some outerSession.frame, [], innerLayer.scope, [], none, "<lambda>.<locals>."⟩

theorem getsText_outerSession_failsWith_innerSession :
    lookupVar "x" outerSession = (.ok (.text "v"), outerSession) ∧
    GetsText outerSession ((machine 3).eval (echoing "x") outerSession) "v" ∧
    lookupVar "x" innerSession = (.ok (.text "v"), innerSession) ∧
    FailsWith innerSession ((machine 3).eval (echoing "x") innerSession)
      "@(x): name 'x' is not defined" := by
  have hstart : Within (Conch.Session.initial (World.Setup.plain ["ROOT"]).world) 0 [] 1 :=
    .module rfl rfl rfl
  have houter : Within outerSession 0 [outerLayer] outerSession.frame :=
    hstart.enter rfl rfl rfl (by decide) rfl
  have hinner : Within innerSession 0 [innerLayer, outerLayer] innerSession.frame :=
    houter.enter rfl rfl rfl (by decide) rfl
  have hx : IsIdentifier "x" := ⟨by decide, by decide⟩
  have hv : IsPlainWord "v" := ⟨by simp [Text.isBlank], by simp⟩
  have hvalue : lookupVar "x" outerSession = (.ok (.text "v"), outerSession) := rfl
  have hvalue' : lookupVar "x" innerSession = (.ok (.text "v"), innerSession) := rfl
  have hshown := capture_echo_of_within houter (by decide) rfl hx hv hvalue 0
  have hmissed := capture_echo_of_within hinner (by decide) rfl hx hv hvalue' 0
  refine ⟨hvalue, ?_, hvalue', ?_⟩
  · have hshows : Layer.Shows "x" [outerLayer] := .inl (by decide)
    have hgets := hshown.1 hshows
    rwa [hshown.2.2.2 (by decide)] at hgets
  · have hhidden : ¬ Layer.Shows "x" [innerLayer, outerLayer] := by
      have hscope : innerLayer.scope = ⟨[], ["__shell"], [], []⟩ := rfl
      have howns : Layer.owns "x" [outerLayer] = true := rfl
      simp [Layer.Shows, hscope, howns]
    exact hmissed.2.2.1 hhidden rfl (by decide)

end Conch.Eval
