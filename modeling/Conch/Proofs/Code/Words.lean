import Mathlib
import Conch.Code.Names
import Conch.Proofs.Code.Quoting

/-!
# Words of programs

The words of a tree are what its program text is made of besides marks and keywords: the names that
stand as expressions, and all other names and literals. Replacing names changes those words only that
are names, and puts the words of the new expression in the place of each.
-/

namespace Conch.Code

inductive Word where
  /-- A name that stands as an expression. -/
  | name (id : String)
  /-- A literal, or a name that is part of a construct. -/
  | text (chars : List Char)
  deriving DecidableEq

def Word.chars : Word → List Char
  | .name id => id.toList
  | .text chars => chars

/-- A name that is part of a construct. -/
def label (name : String) : Word := .text name.toList

def labels : Option String → List Word
  | none => []
  | some name => [label name]

mutual

/-- The text of a part of a template; braces stand for a field. -/
def partText : Expr → List Char
  | .constant (.text s _) => s.toList
  | .template parts => templateText parts
  | _ => ['\x7b', '\x7d']

def templateText : List Expr → List Char
  | [] => []
  | e :: es => partText e ++ templateText es

end

mutual

def Expr.words : Expr → List Word
  | .boolean _ values => wordsIn values
  | .named target value => target.words ++ value.words
  | .binary _ left right => left.words ++ right.words
  | .unary _ operand => operand.words
  | .lambda params body => params.words ++ body.words
  | .conditional test body orelse => test.words ++ body.words ++ orelse.words
  | .dict items => wordsInItems items
  | .set items => wordsIn items
  | .listComp element clauses => element.words ++ wordsInClauses clauses
  | .setComp element clauses => element.words ++ wordsInClauses clauses
  | .dictComp key value clauses => key.words ++ value.words ++ wordsInClauses clauses
  | .generator element clauses => element.words ++ wordsInClauses clauses
  | .await value => value.words
  | .yield value => wordsInOption value
  | .yieldFrom value => value.words
  | .compare left links => left.words ++ wordsInLinks links
  | .call function args keywords => function.words ++ wordsIn args ++ wordsInKeywords keywords
  | .field value _ format => value.words ++ wordsInOption format
  | .template parts => .text (templateText parts) :: wordsInParts parts
  | .constant c => [.text (Quoting.constantText c)]
  | .attribute value name => value.words ++ [label name]
  | .subscript value index => value.words ++ index.words
  | .starred value => value.words
  | .name id => [.name id]
  | .list items => wordsIn items
  | .tuple items => wordsIn items
  | .slice lower upper step => wordsInOption lower ++ wordsInOption upper ++ wordsInOption step

def wordsIn : List Expr → List Word
  | [] => []
  | e :: es => e.words ++ wordsIn es

def wordsInOption : Option Expr → List Word
  | none => []
  | some e => e.words

/-- The words in the fields of a part of a template. -/
def partWords : Expr → List Word
  | .template parts => wordsInParts parts
  | .field value _ format => value.words ++ wordsInOption format
  | _ => []

def wordsInParts : List Expr → List Word
  | [] => []
  | e :: es => partWords e ++ wordsInParts es

def DictItem.words : DictItem → List Word
  | .pair key value => key.words ++ value.words
  | .spread value => value.words

def wordsInItems : List DictItem → List Word
  | [] => []
  | i :: is => i.words ++ wordsInItems is

def Link.words : Link → List Word
  | .mk _ right => right.words

def wordsInLinks : List Link → List Word
  | [] => []
  | l :: ls => l.words ++ wordsInLinks ls

def Keyword.words : Keyword → List Word
  | .named name value => label name :: value.words
  | .spread value => value.words

def wordsInKeywords : List Keyword → List Word
  | [] => []
  | k :: ks => k.words ++ wordsInKeywords ks

def Clause.words : Clause → List Word
  | .mk _ target source conditions => target.words ++ source.words ++ wordsIn conditions

def wordsInClauses : List Clause → List Word
  | [] => []
  | c :: cs => c.words ++ wordsInClauses cs

def Param.words : Param → List Word
  | .mk name hint default => label name :: wordsInOption hint ++ wordsInOption default

def wordsInParams : List Param → List Word
  | [] => []
  | p :: ps => p.words ++ wordsInParams ps

def wordsInParam : Option Param → List Word
  | none => []
  | some p => p.words

def Params.words : Params → List Word
  | .mk positional plain rest keywordOnly keywordRest =>
    wordsInParams positional ++ wordsInParams plain ++ wordsInParam rest ++
      wordsInParams keywordOnly ++ wordsInParam keywordRest

end

mutual

def Pattern.words : Pattern → List Word
  | .value value => value.words
  | .singleton c => [.text (Quoting.constantText c)]
  | .sequence items => wordsInPatterns items
  | .mapping items rest => wordsInKeyPatterns items ++ labels rest
  | .object cls items attributes =>
    cls.words ++ wordsInPatterns items ++ wordsInNamedPatterns attributes
  | .star name => labels name
  | .capture _ none => []
  | .capture pattern (some name) => wordsInPattern pattern ++ [label name]
  | .either items => wordsInPatterns items

def wordsInPattern : Option Pattern → List Word
  | none => []
  | some p => p.words

def wordsInPatterns : List Pattern → List Word
  | [] => []
  | p :: ps => p.words ++ wordsInPatterns ps

def KeyPattern.words : KeyPattern → List Word
  | .mk key pattern => key.words ++ pattern.words

def wordsInKeyPatterns : List KeyPattern → List Word
  | [] => []
  | p :: ps => p.words ++ wordsInKeyPatterns ps

def NamedPattern.words : NamedPattern → List Word
  | .mk name pattern => label name :: pattern.words

def wordsInNamedPatterns : List NamedPattern → List Word
  | [] => []
  | p :: ps => p.words ++ wordsInNamedPatterns ps

end

def WithItem.words (i : WithItem) : List Word := i.context.words ++ wordsInOption i.target

def Alias.words (a : Alias) : List Word := label a.name :: labels a.asName

mutual

def Stmt.words : Stmt → List Word
  | .function _ name params body decorators returns =>
    wordsIn decorators ++ (label name :: params.words ++ wordsInOption returns) ++ wordsInBody body
  | .cls name bases keywords body decorators =>
    wordsIn decorators ++ (label name :: wordsIn bases ++ wordsInKeywords keywords) ++
      wordsInBody body
  | .ret value => wordsInOption value
  | .delete targets => wordsIn targets
  | .assign targets value => wordsIn targets ++ value.words
  | .augAssign target _ value => target.words ++ value.words
  | .annAssign target hint value _ => target.words ++ hint.words ++ wordsInOption value
  | .forLoop _ target source body orelse =>
    target.words ++ source.words ++ wordsInBody body ++ wordsInBody orelse
  | .whileLoop test body orelse => test.words ++ wordsInBody body ++ wordsInBody orelse
  | .branch test body orelse => test.words ++ wordsInBody body ++ wordsInBody orelse
  | .withBlock _ items body => items.flatMap WithItem.words ++ wordsInBody body
  | .matchOn subject cases => subject.words ++ wordsInCases cases
  | .raise none _ => []
  | .raise (some exception) cause => exception.words ++ wordsInOption cause
  | .attempt _ body handlers orelse final =>
    wordsInBody body ++ wordsInHandlers handlers ++ wordsInBody orelse ++ wordsInBody final
  | .assertion test message => test.words ++ wordsInOption message
  | .importNames names => names.flatMap Alias.words
  | .importFrom module names _ => labels module ++ names.flatMap Alias.words
  | .global names => names.map label
  | .nonlocal names => names.map label
  | .expr value => value.words
  | .pass => []
  | .stop => []
  | .next => []

def wordsInBody : List Stmt → List Word
  | [] => []
  | s :: ss => s.words ++ wordsInBody ss

def Case.words : Case → List Word
  | .mk pattern guard body => pattern.words ++ wordsInOption guard ++ wordsInBody body

def wordsInCases : List Case → List Word
  | [] => []
  | c :: cs => c.words ++ wordsInCases cs

def Handler.words : Handler → List Word
  | .mk type name body => wordsInOption type ++ labels name ++ wordsInBody body

def wordsInHandlers : List Handler → List Word
  | [] => []
  | h :: hs => h.words ++ wordsInHandlers hs

end

/-- The words of a program that are printed: of what is typed at a prompt, those of the last
statement. -/
def Program.words : Program → List Word
  | .module body => wordsInBody body
  | .interactive body => wordsInBody body.getLast?.toList
  | .expression e => e.words

/-! ## Replacing names -/

/-- The words that stand for a word when names are replaced. -/
def Word.replace (f : String → Option Expr) : Word → List Word
  | .name id => ((f id).map Expr.words).getD [.name id]
  | .text chars => [.text chars]

/-- Only calls are put in the place of names. -/
def GivesCalls (f : String → Option Expr) : Prop :=
  ∀ id e, f id = some e → ∃ function args keywords, e = .call function args keywords

section

variable {f : String → Option Expr}

theorem labels_replace (name : Option String) :
    (labels name).flatMap (Word.replace f) = labels name := by
  cases name <;> rfl

theorem labelled_replace (names : List String) :
    (names.map label).flatMap (Word.replace f) = names.map label := by
  induction names with
  | nil => rfl
  | cons name names ih => rw [List.map_cons, List.flatMap_cons, ih]; rfl

theorem aliases_replace (names : List Alias) :
    (names.flatMap Alias.words).flatMap (Word.replace f) = names.flatMap Alias.words := by
  induction names with
  | nil => rfl
  | cons a names ih =>
    simp only [List.flatMap_cons, List.flatMap_append, ih, Alias.words, label, Word.replace,
      labels_replace, List.singleton_append]

theorem replaceInBody_eq_map (ss : List Stmt) : replaceInBody f ss = ss.map (Stmt.replace f) := by
  induction ss with
  | nil => rfl
  | cons s ss ih => rw [replaceInBody, ih, List.map_cons]

-- the functions of a block go through one another, so each takes the assumption
set_option linter.unusedSectionVars false

variable (hf : GivesCalls f)

include hf

mutual

/-- A call is no text, so the text of a template stays. -/
theorem partText_replace (e : Expr) : partText (e.replace f) = partText e := by
  cases e with
  | template parts => exact templateText_replaceIn parts
  | constant c => rfl
  | name id =>
    cases hid : f id with
    | none => simp [Expr.replace, hid]
    | some e =>
      obtain ⟨function, args, keywords, rfl⟩ := hf id e hid
      simp [Expr.replace, hid, partText]
  | _ => rfl

theorem templateText_replaceIn (es : List Expr) :
    templateText (replaceIn f es) = templateText es := by
  cases es with
  | nil => rfl
  | cons e es =>
    rw [replaceIn, templateText, templateText, partText_replace e, templateText_replaceIn es]

end

mutual

theorem Expr.words_replace (e : Expr) : (e.replace f).words = e.words.flatMap (Word.replace f) := by
  cases e with
  | boolean op values => exact wordsIn_replaceIn values
  | named target value =>
    simp only [Expr.replace, Expr.words, List.flatMap_append, Expr.words_replace target,
      Expr.words_replace value]
  | binary op left right =>
    simp only [Expr.replace, Expr.words, List.flatMap_append, Expr.words_replace left,
      Expr.words_replace right]
  | unary op operand => exact Expr.words_replace operand
  | lambda params body =>
    simp only [Expr.replace, Expr.words, List.flatMap_append, Params.words_replace params,
      Expr.words_replace body]
  | conditional test body orelse =>
    simp only [Expr.replace, Expr.words, List.flatMap_append, Expr.words_replace test,
      Expr.words_replace body, Expr.words_replace orelse]
  | dict items => exact wordsInItems_replace items
  | set items => exact wordsIn_replaceIn items
  | listComp element clauses =>
    simp only [Expr.replace, Expr.words, List.flatMap_append, Expr.words_replace element,
      wordsInClauses_replace clauses]
  | setComp element clauses =>
    simp only [Expr.replace, Expr.words, List.flatMap_append, Expr.words_replace element,
      wordsInClauses_replace clauses]
  | dictComp key value clauses =>
    simp only [Expr.replace, Expr.words, List.flatMap_append, Expr.words_replace key,
      Expr.words_replace value, wordsInClauses_replace clauses]
  | generator element clauses =>
    simp only [Expr.replace, Expr.words, List.flatMap_append, Expr.words_replace element,
      wordsInClauses_replace clauses]
  | await value => exact Expr.words_replace value
  | yield value => exact wordsInOption_replace value
  | yieldFrom value => exact Expr.words_replace value
  | compare left links =>
    simp only [Expr.replace, Expr.words, List.flatMap_append, Expr.words_replace left,
      wordsInLinks_replace links]
  | call function args keywords =>
    simp only [Expr.replace, Expr.words, List.flatMap_append, Expr.words_replace function,
      wordsIn_replaceIn args, wordsInKeywords_replace keywords]
  | field value conversion format =>
    simp only [Expr.replace, Expr.words, List.flatMap_append, Expr.words_replace value,
      wordsInOption_replace format]
  | template parts =>
    simp only [Expr.replace, Expr.words, List.flatMap_cons, templateText_replaceIn hf parts,
      wordsInParts_replaceIn parts, Word.replace, List.singleton_append]
  | constant c => rfl
  | «attribute» value name =>
    simp only [Expr.replace, Expr.words, List.flatMap_append, Expr.words_replace value,
      List.flatMap_singleton, label, Word.replace]
  | subscript value index =>
    simp only [Expr.replace, Expr.words, List.flatMap_append, Expr.words_replace value,
      Expr.words_replace index]
  | starred value => exact Expr.words_replace value
  | name id => cases hid : f id <;> simp [Expr.replace, Expr.words, Word.replace, hid]
  | list items => exact wordsIn_replaceIn items
  | tuple items => exact wordsIn_replaceIn items
  | slice lower upper step =>
    simp only [Expr.replace, Expr.words, List.flatMap_append, wordsInOption_replace lower,
      wordsInOption_replace upper, wordsInOption_replace step]

theorem wordsIn_replaceIn (es : List Expr) :
    wordsIn (replaceIn f es) = (wordsIn es).flatMap (Word.replace f) := by
  cases es with
  | nil => rfl
  | cons e es =>
    simp only [replaceIn, wordsIn, List.flatMap_append, Expr.words_replace e, wordsIn_replaceIn es]

theorem wordsInOption_replace (e : Option Expr) :
    wordsInOption (replaceInOption f e) = (wordsInOption e).flatMap (Word.replace f) := by
  cases e with
  | none => rfl
  | some e => exact Expr.words_replace e

theorem partWords_replace (e : Expr) :
    partWords (e.replace f) = (partWords e).flatMap (Word.replace f) := by
  cases e with
  | template parts => exact wordsInParts_replaceIn parts
  | field value conversion format =>
    simp only [Expr.replace, partWords, List.flatMap_append, Expr.words_replace value,
      wordsInOption_replace format]
  | name id =>
    cases hid : f id with
    | none => simp [Expr.replace, hid, partWords]
    | some e =>
      obtain ⟨function, args, keywords, rfl⟩ := hf id e hid
      simp [Expr.replace, hid, partWords]
  | _ => rfl

theorem wordsInParts_replaceIn (es : List Expr) :
    wordsInParts (replaceIn f es) = (wordsInParts es).flatMap (Word.replace f) := by
  cases es with
  | nil => rfl
  | cons e es =>
    simp only [replaceIn, wordsInParts, List.flatMap_append, partWords_replace e,
      wordsInParts_replaceIn es]

theorem DictItem.words_replace (i : DictItem) :
    (i.replace f).words = i.words.flatMap (Word.replace f) := by
  cases i with
  | pair key value =>
    simp only [DictItem.replace, DictItem.words, List.flatMap_append, Expr.words_replace key,
      Expr.words_replace value]
  | spread value => exact Expr.words_replace value

theorem wordsInItems_replace (is : List DictItem) :
    wordsInItems (replaceInItems f is) = (wordsInItems is).flatMap (Word.replace f) := by
  cases is with
  | nil => rfl
  | cons i is =>
    simp only [replaceInItems, wordsInItems, List.flatMap_append, DictItem.words_replace i,
      wordsInItems_replace is]

theorem Link.words_replace (l : Link) : (l.replace f).words = l.words.flatMap (Word.replace f) := by
  cases l with
  | mk op right => exact Expr.words_replace right

theorem wordsInLinks_replace (ls : List Link) :
    wordsInLinks (replaceInLinks f ls) = (wordsInLinks ls).flatMap (Word.replace f) := by
  cases ls with
  | nil => rfl
  | cons l ls =>
    simp only [replaceInLinks, wordsInLinks, List.flatMap_append, Link.words_replace l,
      wordsInLinks_replace ls]

theorem Keyword.words_replace (k : Keyword) :
    (k.replace f).words = k.words.flatMap (Word.replace f) := by
  cases k with
  | named name value =>
    simp only [Keyword.replace, Keyword.words, List.flatMap_cons, label, Word.replace,
      Expr.words_replace value, List.singleton_append]
  | spread value => exact Expr.words_replace value

theorem wordsInKeywords_replace (ks : List Keyword) :
    wordsInKeywords (replaceInKeywords f ks) = (wordsInKeywords ks).flatMap (Word.replace f) := by
  cases ks with
  | nil => rfl
  | cons k ks =>
    simp only [replaceInKeywords, wordsInKeywords, List.flatMap_append, Keyword.words_replace k,
      wordsInKeywords_replace ks]

theorem Clause.words_replace (c : Clause) :
    (c.replace f).words = c.words.flatMap (Word.replace f) := by
  cases c with
  | mk isAsync target source conditions =>
    simp only [Clause.replace, Clause.words, List.flatMap_append, Expr.words_replace target,
      Expr.words_replace source, wordsIn_replaceIn conditions]

theorem wordsInClauses_replace (cs : List Clause) :
    wordsInClauses (replaceInClauses f cs) = (wordsInClauses cs).flatMap (Word.replace f) := by
  cases cs with
  | nil => rfl
  | cons c cs =>
    simp only [replaceInClauses, wordsInClauses, List.flatMap_append, Clause.words_replace c,
      wordsInClauses_replace cs]

theorem Param.words_replace (p : Param) :
    (p.replace f).words = p.words.flatMap (Word.replace f) := by
  cases p with
  | mk name hint default =>
    simp only [Param.replace, Param.words, List.flatMap_append, List.flatMap_cons, label,
      Word.replace, wordsInOption_replace hint, wordsInOption_replace default, List.cons_append,
      List.nil_append]

theorem wordsInParams_replace (ps : List Param) :
    wordsInParams (replaceInParams f ps) = (wordsInParams ps).flatMap (Word.replace f) := by
  cases ps with
  | nil => rfl
  | cons p ps =>
    simp only [replaceInParams, wordsInParams, List.flatMap_append, Param.words_replace p,
      wordsInParams_replace ps]

theorem wordsInParam_replace (p : Option Param) :
    wordsInParam (replaceInParam f p) = (wordsInParam p).flatMap (Word.replace f) := by
  cases p with
  | none => rfl
  | some p => exact Param.words_replace p

theorem Params.words_replace (ps : Params) :
    (ps.replace f).words = ps.words.flatMap (Word.replace f) := by
  cases ps with
  | mk positional plain rest keywordOnly keywordRest =>
    simp only [Params.replace, Params.words, List.flatMap_append, wordsInParams_replace positional,
      wordsInParams_replace plain, wordsInParam_replace rest, wordsInParams_replace keywordOnly,
      wordsInParam_replace keywordRest]

end

mutual

theorem Pattern.words_replace (p : Pattern) :
    (p.replace f).words = p.words.flatMap (Word.replace f) := by
  cases p with
  | value value => exact Expr.words_replace hf value
  | singleton c => rfl
  | sequence items => exact wordsInPatterns_replace items
  | mapping items rest =>
    simp only [Pattern.replace, Pattern.words, List.flatMap_append, wordsInKeyPatterns_replace items,
      labels_replace]
  | object cls items attributes =>
    simp only [Pattern.replace, Pattern.words, List.flatMap_append, Expr.words_replace hf cls,
      wordsInPatterns_replace items, wordsInNamedPatterns_replace attributes]
  | star name => exact (labels_replace name).symm
  | capture pattern name =>
    cases name with
    | none => rfl
    | some name =>
      simp only [Pattern.replace, Pattern.words, List.flatMap_append,
        wordsInPattern_replace pattern, List.flatMap_singleton, label, Word.replace]
  | either items => exact wordsInPatterns_replace items

theorem wordsInPattern_replace (p : Option Pattern) :
    wordsInPattern (replaceInPattern f p) = (wordsInPattern p).flatMap (Word.replace f) := by
  cases p with
  | none => rfl
  | some p => exact Pattern.words_replace p

theorem wordsInPatterns_replace (ps : List Pattern) :
    wordsInPatterns (replaceInPatterns f ps) = (wordsInPatterns ps).flatMap (Word.replace f) := by
  cases ps with
  | nil => rfl
  | cons p ps =>
    simp only [replaceInPatterns, wordsInPatterns, List.flatMap_append, Pattern.words_replace p,
      wordsInPatterns_replace ps]

theorem KeyPattern.words_replace (p : KeyPattern) :
    (p.replace f).words = p.words.flatMap (Word.replace f) := by
  cases p with
  | mk key pattern =>
    simp only [KeyPattern.replace, KeyPattern.words, List.flatMap_append, Expr.words_replace hf key,
      Pattern.words_replace pattern]

theorem wordsInKeyPatterns_replace (ps : List KeyPattern) :
    wordsInKeyPatterns (replaceInKeyPatterns f ps) =
      (wordsInKeyPatterns ps).flatMap (Word.replace f) := by
  cases ps with
  | nil => rfl
  | cons p ps =>
    simp only [replaceInKeyPatterns, wordsInKeyPatterns, List.flatMap_append,
      KeyPattern.words_replace p, wordsInKeyPatterns_replace ps]

theorem NamedPattern.words_replace (p : NamedPattern) :
    (p.replace f).words = p.words.flatMap (Word.replace f) := by
  cases p with
  | mk name pattern =>
    simp only [NamedPattern.replace, NamedPattern.words, List.flatMap_cons, label, Word.replace,
      Pattern.words_replace pattern, List.singleton_append]

theorem wordsInNamedPatterns_replace (ps : List NamedPattern) :
    wordsInNamedPatterns (replaceInNamedPatterns f ps) =
      (wordsInNamedPatterns ps).flatMap (Word.replace f) := by
  cases ps with
  | nil => rfl
  | cons p ps =>
    simp only [replaceInNamedPatterns, wordsInNamedPatterns, List.flatMap_append,
      NamedPattern.words_replace p, wordsInNamedPatterns_replace ps]

end

theorem withItems_words_replace (items : List WithItem) :
    (items.map (WithItem.replace f)).flatMap WithItem.words =
      (items.flatMap WithItem.words).flatMap (Word.replace f) := by
  induction items with
  | nil => rfl
  | cons i items ih =>
    simp only [List.map_cons, List.flatMap_cons, List.flatMap_append, ih, WithItem.replace,
      WithItem.words, Expr.words_replace hf i.context, wordsInOption_replace hf i.target]

mutual

theorem Stmt.words_replace (s : Stmt) : (s.replace f).words = s.words.flatMap (Word.replace f) := by
  cases s with
  | function isAsync name params body decorators returns =>
    simp only [Stmt.replace, Stmt.words, List.flatMap_cons, List.flatMap_append, label, Word.replace,
      Params.words_replace hf params, wordsInBody_replace body, wordsIn_replaceIn hf decorators,
      wordsInOption_replace hf returns, List.cons_append, List.nil_append]
  | cls name bases keywords body decorators =>
    simp only [Stmt.replace, Stmt.words, List.flatMap_cons, List.flatMap_append, label, Word.replace,
      wordsIn_replaceIn hf bases, wordsInKeywords_replace hf keywords, wordsInBody_replace body,
      wordsIn_replaceIn hf decorators, List.cons_append, List.nil_append]
  | ret value => exact wordsInOption_replace hf value
  | delete targets => exact wordsIn_replaceIn hf targets
  | assign targets value =>
    simp only [Stmt.replace, Stmt.words, List.flatMap_append, wordsIn_replaceIn hf targets,
      Expr.words_replace hf value]
  | augAssign target op value =>
    simp only [Stmt.replace, Stmt.words, List.flatMap_append, Expr.words_replace hf target,
      Expr.words_replace hf value]
  | annAssign target hint value simple =>
    simp only [Stmt.replace, Stmt.words, List.flatMap_append, Expr.words_replace hf target,
      Expr.words_replace hf hint, wordsInOption_replace hf value]
  | forLoop isAsync target source body orelse =>
    simp only [Stmt.replace, Stmt.words, List.flatMap_append, Expr.words_replace hf target,
      Expr.words_replace hf source, wordsInBody_replace body, wordsInBody_replace orelse]
  | whileLoop test body orelse =>
    simp only [Stmt.replace, Stmt.words, List.flatMap_append, Expr.words_replace hf test,
      wordsInBody_replace body, wordsInBody_replace orelse]
  | branch test body orelse =>
    simp only [Stmt.replace, Stmt.words, List.flatMap_append, Expr.words_replace hf test,
      wordsInBody_replace body, wordsInBody_replace orelse]
  | withBlock isAsync items body =>
    simp only [Stmt.replace, Stmt.words, List.flatMap_append, withItems_words_replace hf items,
      wordsInBody_replace body]
  | matchOn subject cases =>
    simp only [Stmt.replace, Stmt.words, List.flatMap_append, Expr.words_replace hf subject,
      wordsInCases_replace cases]
  | raise exception cause =>
    cases exception with
    | none => rfl
    | some exception =>
      simp only [Stmt.replace, replaceInOption, Stmt.words, List.flatMap_append,
        Expr.words_replace hf exception, wordsInOption_replace hf cause]
  | attempt grouped body handlers orelse final =>
    simp only [Stmt.replace, Stmt.words, List.flatMap_append, wordsInBody_replace body,
      wordsInHandlers_replace handlers, wordsInBody_replace orelse, wordsInBody_replace final]
  | assertion test message =>
    simp only [Stmt.replace, Stmt.words, List.flatMap_append, Expr.words_replace hf test,
      wordsInOption_replace hf message]
  | importNames names => exact (aliases_replace names).symm
  | importFrom module names level =>
    simp only [Stmt.replace, Stmt.words, List.flatMap_append, labels_replace, aliases_replace]
  | global names => exact (labelled_replace names).symm
  | nonlocal names => exact (labelled_replace names).symm
  | expr value => exact Expr.words_replace hf value
  | pass => rfl
  | stop => rfl
  | next => rfl

theorem wordsInBody_replace (ss : List Stmt) :
    wordsInBody (replaceInBody f ss) = (wordsInBody ss).flatMap (Word.replace f) := by
  cases ss with
  | nil => rfl
  | cons s ss =>
    simp only [replaceInBody, wordsInBody, List.flatMap_append, Stmt.words_replace s,
      wordsInBody_replace ss]

theorem Case.words_replace (c : Case) : (c.replace f).words = c.words.flatMap (Word.replace f) := by
  cases c with
  | mk pattern guard body =>
    simp only [Case.replace, Case.words, List.flatMap_append, Pattern.words_replace hf pattern,
      wordsInOption_replace hf guard, wordsInBody_replace body]

theorem wordsInCases_replace (cs : List Case) :
    wordsInCases (replaceInCases f cs) = (wordsInCases cs).flatMap (Word.replace f) := by
  cases cs with
  | nil => rfl
  | cons c cs =>
    simp only [replaceInCases, wordsInCases, List.flatMap_append, Case.words_replace c,
      wordsInCases_replace cs]

theorem Handler.words_replace (h : Handler) :
    (h.replace f).words = h.words.flatMap (Word.replace f) := by
  cases h with
  | mk type name body =>
    simp only [Handler.replace, Handler.words, List.flatMap_append, wordsInOption_replace hf type,
      labels_replace, wordsInBody_replace body]

theorem wordsInHandlers_replace (hs : List Handler) :
    wordsInHandlers (replaceInHandlers f hs) = (wordsInHandlers hs).flatMap (Word.replace f) := by
  cases hs with
  | nil => rfl
  | cons h hs =>
    simp only [replaceInHandlers, wordsInHandlers, List.flatMap_append, Handler.words_replace h,
      wordsInHandlers_replace hs]

end

/-- Replacing names puts other words in the place of names, one after the other, and leaves all other
words as they are. -/
theorem Program.words_replace (p : Program) :
    (p.replace f).words = p.words.flatMap (Word.replace f) := by
  cases p with
  | module body => exact wordsInBody_replace hf body
  | interactive body =>
    have hlast : (replaceInBody f body).getLast? = body.getLast?.map (Stmt.replace f) := by
      rw [replaceInBody_eq_map, List.getLast?_map]
    rw [Program.replace, Program.words, Program.words, hlast]
    cases body.getLast? with
    | none => rfl
    | some s => exact wordsInBody_replace hf [s]
  | expression e => exact Expr.words_replace hf e

end

end Conch.Code
