import Mathlib
import Conch.Code.Grammar.Stmt
import Conch.Proofs.Code.Reader

/-!
# Reading a call

Every level of the grammar of expressions reads one operand and goes on while an operator of the
level is next. So an operand in front of a closing parenthesis or of the end of the text is read
through all levels, and a name with an operand in parentheses is read as a call.
-/

namespace Conch.Code.Grammar

open Reader

variable {g : Grammar} {ts rest : List Token} {t : Token} {e : Expr}

/-- A token that no expression goes on with. -/
inductive Ends (t : Token) : Prop where
  | close (hkind : t.kind = .mark) (htext : t.text = ")")
  | finish {n : Nat} (hkind : t.kind = .finish n)

theorem Ends.not_fault (h : Ends t) : ¬IsFault t := by
  rintro ⟨cause, hfault⟩
  rcases h with ⟨hkind, -⟩ | hkind <;> simp [hkind] at hfault

theorem Ends.isMark_eq_false (h : Ends t) {m : String} (hm : m ≠ ")") : isMark t m = false := by
  rcases h with ⟨hkind, htext⟩ | hkind
  · simpa [isMark, htext] using fun _ => hm.symm
  · simp [isMark, hkind]

theorem Ends.isWord_eq_false (h : Ends t) (w : String) : isWord t w = false := by
  rcases h with ⟨hkind, -⟩ | hkind <;> simp [isWord, hkind]

theorem Ends.lookup_eq_none {β : Type} (h : Ends t) {table : List (String × β)}
    (htable : table.lookup ")" = none) : t.kind = .mark → table.lookup t.text = none := by
  rcases h with ⟨hkind, htext⟩ | hkind
  · exact fun _ => htext ▸ htable
  · simp [hkind]

/-- A token that an operand starts with and no operator. -/
inductive Starts (t : Token) : Prop where
  | name (hkind : t.kind = .word) (hname : isKeyword t.text = false)
  | literal (hkind : t.kind = .literal)

theorem Starts.not_fault (h : Starts t) : ¬IsFault t := by
  rintro ⟨cause, hfault⟩
  rcases h with ⟨hkind, -⟩ | hkind <;> simp [hkind] at hfault

theorem Starts.isMark_eq_false (h : Starts t) (m : String) : isMark t m = false := by
  rcases h with ⟨hkind, -⟩ | hkind <;> simp [isMark, hkind]

theorem Starts.isWord_eq_false (h : Starts t) {w : String} (hw : isKeyword w = true) :
    isWord t w = false := by
  rcases h with ⟨hkind, hname⟩ | hkind
  · have hne : t.text ≠ w := by
      rintro rfl
      rw [hw] at hname
      cases hname
    simpa [isWord, hkind] using hne
  · simp [isWord, hkind]

theorem Starts.kind_ne_mark (h : Starts t) : t.kind ≠ .mark := by
  rcases h with ⟨hkind, -⟩ | hkind <;> simp [hkind]

theorem reads_binaryLevel {ops : List (String × BinaryOp)} {operand : Reader Expr}
    (hoperand : Reads operand ts e (t :: rest)) (ht : Ends t) (hops : ops.lookup ")" = none) :
    Reads (binaryLevel ops operand) ts e (t :: rest) :=
  hoperand.bind (reads_extend_none
    ((reads_markIn?_none ht.not_fault (ht.lookup_eq_none hops)).bind (reads_pure none)))

theorem reads_bitwiseOrOf {factor : Reader Expr} (hfactor : Reads factor ts e (t :: rest))
    (ht : Ends t) : Reads (bitwiseOrOf factor) ts e (t :: rest) := by
  unfold bitwiseOrOf termOf
  refine reads_binaryLevel ?_ ht rfl
  refine reads_binaryLevel ?_ ht rfl
  refine reads_binaryLevel ?_ ht rfl
  refine reads_binaryLevel ?_ ht rfl
  refine reads_binaryLevel ?_ ht rfl
  exact reads_binaryLevel hfactor ht rfl

theorem reads_factorStep (hstart : Starts t) {end_ : Token}
    (hprimary : Reads g.primary (t :: ts) e (end_ :: rest)) (hend : Ends end_) :
    Reads g.factorStep (t :: ts) e (end_ :: rest) := by
  have hpower : Reads g.power (t :: ts) e (end_ :: rest) :=
    (reads_word?_false hstart.not_fault (hstart.isWord_eq_false rfl)).bind (hprimary.bind
      ((reads_mark?_false hend.not_fault (hend.isMark_eq_false (by decide))).bind (reads_pure e)))
  exact (reads_markIn?_none hstart.not_fault fun h => absurd h hstart.kind_ne_mark).bind hpower

theorem reads_compareOp?_none (h : Ends t) :
    Reads compareOp? (t :: rest) none (t :: rest) := by
  refine (reads_markIn?_none h.not_fault (h.lookup_eq_none rfl)).bind ?_
  refine (reads_nextWord h.not_fault "not").bind ?_
  rw [h.isWord_eq_false]
  refine (reads_word?_false h.not_fault (h.isWord_eq_false "in")).bind ?_
  exact (reads_word?_false h.not_fault (h.isWord_eq_false "is")).bind (reads_pure none)

/-- An operand in front of the end of an expression is the expression. -/
theorem reads_expressionStep (hstart : Starts t) {end_ : Token}
    (hprimary : Reads g.primary (t :: ts) e (end_ :: rest)) (hend : Ends end_) :
    Reads g.expressionStep (t :: ts) e (end_ :: rest) := by
  have hoperand : Reads g.bitwiseOr (t :: ts) e (end_ :: rest) :=
    reads_bitwiseOrOf (reads_factorStep hstart hprimary hend) hend
  have hcomparison : Reads g.comparison (t :: ts) e (end_ :: rest) := by
    refine hoperand.bind ((reads_many_nil ?_).bind (reads_pure e))
    exact (reads_compareOp?_none hend).bind (reads_pure none)
  have hinversion : Reads g.inversionStep (t :: ts) e (end_ :: rest) :=
    (reads_word?_false hstart.not_fault (hstart.isWord_eq_false rfl)).bind hcomparison
  have hlink (w : String) (p : Reader Expr) : Reads (many do
      if ← word? w then return some (← p) else return none) (end_ :: rest) [] (end_ :: rest) :=
    reads_many_nil ((reads_word?_false hend.not_fault (hend.isWord_eq_false w)).bind
      (reads_pure none))
  have hconjunction : Reads (conjunction g.inversionStep) (t :: ts) e (end_ :: rest) :=
    hinversion.bind ((hlink "and" _).bind (reads_pure e))
  have hdisjunction : Reads g.disjunction (t :: ts) e (end_ :: rest) :=
    hconjunction.bind ((hlink "or" _).bind (reads_pure e))
  refine (reads_nextWord hstart.not_fault "lambda").bind ?_
  rw [hstart.isWord_eq_false rfl]
  exact hdisjunction.bind
    ((reads_word?_false hend.not_fault (hend.isWord_eq_false "if")).bind (reads_pure e))

theorem reads_suffix_none (primary : Reader Expr) (e : Expr) (ht : Ends t) :
    Reads (g.suffix primary e) (t :: rest) none (t :: rest) := by
  have hmark {m : String} (hm : m ≠ ")") : Reads (mark? m) (t :: rest) false (t :: rest) :=
    reads_mark?_false ht.not_fault (ht.isMark_eq_false hm)
  refine (hmark (by decide)).bind ?_
  exact (hmark (by decide)).bind ((hmark (by decide)).bind (reads_pure none))

theorem reads_literals (hkind : t.kind = .literal) {end_ : Token} (hend : Ends end_) :
    Reads literals (t :: end_ :: rest) [t] (end_ :: rest) := by
  have hother : (end_.kind == .literal) = false := by
    rcases hend with ⟨hkind, -⟩ | hkind <;> rw [hkind] <;> rfl
  refine reads_many_singleton (by simp) ?_ ?_
  · refine (reads_peek (Starts.literal hkind).not_fault).bind ?_
    rw [hkind]
    exact reads_drop.bind (reads_pure (some t))
  · refine (reads_peek hend.not_fault).bind ?_
    rw [hother]
    exact reads_pure none

theorem reads_strings (hkind : t.kind = .literal) {end_ : Token} (hend : Ends end_)
    (hjoin : Template.join g.fieldExpression [t.text.toList] = .ok e) :
    Reads g.strings (t :: end_ :: rest) e (end_ :: rest) := by
  refine (reads_peek (Starts.literal hkind).not_fault).bind ((reads_literals hkind hend).bind ?_)
  simp only [List.map_cons, List.map_nil, hjoin]
  exact reads_pure e

/-- A literal as an argument. -/
theorem reads_literal (hkind : t.kind = .literal) {end_ : Token} (hend : Ends end_)
    (hjoin : Template.join g.fieldExpression [t.text.toList] = .ok e) :
    Reads g.expressionStep (t :: end_ :: rest) e (end_ :: rest) := by
  have hatom : Reads (g.atom g.innerBitwiseOr g.innerPrimary g.innerStarExpressions)
      (t :: end_ :: rest) e (end_ :: rest) := by
    refine (reads_peek (Starts.literal hkind).not_fault).bind ?_
    simp only [hkind]
    exact reads_strings hkind hend hjoin
  have hprimary : Reads g.primary (t :: end_ :: rest) e (end_ :: rest) :=
    hatom.bind (reads_extend_none (reads_suffix_none _ e hend))
  exact reads_expressionStep (.literal hkind) hprimary hend

theorem reads_atom_name {bitwiseOr primary star : Reader Expr} (hkind : t.kind = .word)
    (hname : isKeyword t.text = false) :
    Reads (g.atom bitwiseOr primary star) (t :: ts) (.name t.text) ts := by
  have hword {w : String} (hw : isKeyword w = true) : (t.text == w) = false := by
    rw [beq_eq_false_iff_ne]
    rintro rfl
    rw [hw] at hname
    cases hname
  refine (reads_peek (Starts.name hkind hname).not_fault).bind ?_
  simp only [hkind, hword (w := "True") rfl, hword (w := "False") rfl, hword (w := "None") rfl]
  refine (reads_name (Starts.name hkind hname).not_fault ?_).bind (reads_pure _)
  simp [isName, hkind, hname]

/-- A name as an operand. -/
theorem reads_nameOperand (hkind : t.kind = .word) (hname : isKeyword t.text = false)
    {end_ : Token} (hend : Ends end_) :
    Reads g.expressionStep (t :: end_ :: rest) (.name t.text) (end_ :: rest) := by
  have hprimary : Reads g.primary (t :: end_ :: rest) (.name t.text) (end_ :: rest) :=
    (reads_atom_name hkind hname).bind (reads_extend_none (reads_suffix_none _ _ hend))
  exact reads_expressionStep (.name hkind hname) hprimary hend

/-- The name of an argument is followed by a sign. -/
theorem reads_keywordName?_none (hstart : Starts t) {end_ : Token} (hend : Ends end_) :
    Reads keywordName? (t :: end_ :: rest) none (t :: end_ :: rest) := by
  refine (reads_peek hstart.not_fault).bind ?_
  cases isName t with
  | false => exact reads_pure none
  | true =>
    refine (reads_peekSecond hend.not_fault).bind ?_
    rw [hend.isMark_eq_false (by decide)]
    exact reads_pure none

theorem reads_namedExpression (hstart : Starts t) {end_ : Token} (hend : Ends end_)
    (hreads : Reads g.expression (t :: end_ :: rest) e (end_ :: rest)) :
    Reads g.namedExpression (t :: end_ :: rest) e (end_ :: rest) := by
  have hunnamed : Reads (do
      let e ← g.expression
      if ← nextMark ":=" then mismatch
      return e) (t :: end_ :: rest) e (end_ :: rest) := by
    refine hreads.bind ((reads_nextMark hend.not_fault ":=").bind ?_)
    rw [hend.isMark_eq_false (by decide)]
    exact reads_pure e
  refine (reads_peek hstart.not_fault).bind ?_
  cases isName t with
  | false => exact hunnamed
  | true =>
    refine (reads_peekSecond hend.not_fault).bind ?_
    rw [hend.isMark_eq_false (by decide)]
    exact hunnamed

/-- A first argument that is an operand. -/
theorem reads_argItem (hstart : Starts t) {end_ : Token} (hend : Ends end_)
    (hreads : Reads g.expression (t :: end_ :: rest) e (end_ :: rest)) :
    Reads (g.argItem ⟨[], [], false⟩) (t :: end_ :: rest) ⟨[e], [], false⟩ (end_ :: rest) := by
  have hmark (m : String) : Reads (mark? m) (t :: end_ :: rest) false (t :: end_ :: rest) :=
    reads_mark?_false hstart.not_fault (hstart.isMark_eq_false m)
  refine (hmark "**").bind ((hmark "*").bind ((reads_keywordName?_none hstart hend).bind ?_))
  exact (reads_namedExpression hstart hend hreads).bind (reads_pure _)

theorem reads_arguments {primary : Reader Expr} {close : Token} (hstart : Starts t)
    (hreads : Reads g.expression (t :: close :: rest) e (close :: rest))
    (hkind : close.kind = .mark) (htext : close.text = ")") :
    Reads (g.arguments primary) (t :: close :: rest) ([e], []) rest := by
  have hclose : Ends close := .close hkind htext
  have hclause : Reads nextClause (close :: rest) false (close :: rest) := by
    refine (reads_nextWord hclose.not_fault "for").bind ?_
    refine (reads_nextWord hclose.not_fault "async").bind ?_
    rw [hclose.isWord_eq_false, hclose.isWord_eq_false]
    exact reads_pure false
  have hmore : Reads (g.moreArguments ⟨[e], [], false⟩) (close :: rest) ([e], []) rest := by
    refine (reads_extend_none ?_).bind ?_
    · exact (reads_mark?_false hclose.not_fault (hclose.isMark_eq_false (by decide))).bind
        (reads_pure none)
    · exact (reads_mark hclose.not_fault (by simp [isMark, hkind, htext])).bind (reads_pure _)
  refine (reads_mark?_false hstart.not_fault (hstart.isMark_eq_false ")")).bind ?_
  exact (reads_argItem hstart hclose hreads).bind (hclause.bind hmore)

/-- A call with one argument. -/
theorem reads_call {open_ arg close end_ : Token} (hkind : t.kind = .word)
    (hname : isKeyword t.text = false) (hopen : open_.kind = .mark ∧ open_.text = "(")
    (hstart : Starts arg)
    (hreads : Reads g.expression (arg :: close :: end_ :: rest) e (close :: end_ :: rest))
    (hclose : close.kind = .mark ∧ close.text = ")") (hend : Ends end_) :
    Reads g.primary (t :: open_ :: arg :: close :: end_ :: rest) (.call (.name t.text) [e] [])
      (end_ :: rest) := by
  have hopenFault : ¬IsFault open_ := by
    rintro ⟨cause, hfault⟩
    simp [hopen.1] at hfault
  have hdot : isMark open_ "." = false := by simp [isMark, hopen]
  have hparen : isMark open_ "(" = true := by simp [isMark, hopen]
  refine (reads_atom_name hkind hname).bind (reads_extend_once (by simp) ?_
    (reads_suffix_none _ _ hend))
  refine (reads_mark?_false hopenFault hdot).bind ((reads_mark?_true hopenFault hparen).bind ?_)
  exact (reads_arguments hstart hreads hclose.1 hclose.2).bind (reads_pure _)

/-- An expression up to the end of the text. -/
theorem reads_wholeExpression {end_ : Token} {n : Nat} (hend : end_.kind = .finish n)
    (hreads : Reads g.expressionStep ts e [end_]) : Reads g.wholeExpression ts e [end_] := by
  have hends : Ends end_ := .finish hend
  refine (reads_commaSeparated hreads hends.not_fault (hends.isMark_eq_false (by decide))).bind ?_
  refine (reads_many_nil ?_).bind ((reads_peek hends.not_fault).bind ?_)
  · refine (reads_peek hends.not_fault).bind ?_
    rw [hend]
    exact reads_pure none
  · rw [hend]
    exact reads_pure e

end Conch.Code.Grammar
