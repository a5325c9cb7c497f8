import Mathlib
import Conch.Code.Printer
import Conch.Proofs.Code.Words

/-!
# Placeholders in printed programs

Between the words of a program the printer writes keywords, operators and brackets, which hold no
underscore and keep the words apart. So a printed program holds a placeholder just when one of its
words does.
-/

namespace Conch.Code.Printer

open Line

/-- Some of the words hold a placeholder. -/
def Holding (ws : List Word) : Prop := ∃ w ∈ ws, Holds w.chars

@[simp]
theorem holding_nil : ¬Holding [] := by simp [Holding]

@[simp]
theorem holding_cons {w : Word} {ws : List Word} :
    Holding (w :: ws) ↔ Holds w.chars ∨ Holding ws := by simp [Holding]

@[simp]
theorem holding_append {ws ws' : List Word} : Holding (ws ++ ws') ↔ Holding ws ∨ Holding ws' := by
  simp [Holding, or_and_right, exists_or]

theorem holding_flatMap {α : Type} {f : α → List Word} {as : List α} :
    Holding (as.flatMap f) ↔ ∃ a ∈ as, Holding (f a) := by
  simp only [Holding, List.mem_flatMap]
  grind

@[simp]
theorem chars_label (name : String) : (label name).chars = name.toList := rfl

@[simp]
theorem chars_name (id : String) : (Word.name id).chars = id.toList := rfl

@[simp]
theorem chars_text (chars : List Char) : (Word.text chars).chars = chars := rfl

/-- Some of the texts hold a placeholder. -/
def HoldsAny (items : List String) : Prop := ∃ item ∈ items, Holds item.toList

@[simp]
theorem holdsAny_nil : ¬HoldsAny [] := by simp [HoldsAny]

@[simp]
theorem holdsAny_cons {item : String} {items : List String} :
    HoldsAny (item :: items) ↔ Holds item.toList ∨ HoldsAny items := by simp [HoldsAny]

@[simp]
theorem holdsAny_append {items items' : List String} :
    HoldsAny (items ++ items') ↔ HoldsAny items ∨ HoldsAny items' := by
  simp [HoldsAny, or_and_right, exists_or]

theorem bind_eq_ok {α β : Type} {x : Print α} {f : α → Print β} {b : β} :
    (x >>= f) = .ok b ↔ ∃ a, x = .ok a ∧ f a = .ok b := by
  cases x with
  | error e => simp [bind, Except.bind]
  | ok a => simp [bind, Except.bind]

theorem pure_eq_ok {α : Type} {a b : α} : (pure a : Print α) = .ok b ↔ a = b := by
  simp [pure, Except.pure]

@[simp]
theorem holds_parens (condition : Bool) (s : String) :
    Holds (parens condition s).toList ↔ Holds s.toList := by
  cases condition with
  | true => simp (disch := decide) [parens]
  | false => rfl

theorem holds_intercalate {separator : String} (h : IsEscape separator.toList) (items : List String) :
    Holds (separator.intercalate items).toList ↔ HoldsAny items := by
  induction items with
  | nil => simp
  | cons item items ih =>
    cases items with
    | nil => simp
    | cons next items =>
      rw [String.intercalate_cons_cons, String.toList_append, String.toList_append,
        List.append_assoc, holds_append (h.apart_append _),
        holds_append_of_not_mem h.no_underscore, ih]
      simp only [holdsAny_cons]

@[simp]
theorem holds_commas (items : List String) : Holds (commas items).toList ↔ HoldsAny items :=
  holds_intercalate (by decide) items

@[simp]
theorem holds_tupleItems (items : List String) :
    Holds (tupleItems items).toList ↔ HoldsAny items := by
  unfold tupleItems
  split
  · simp (disch := decide)
  · exact holds_commas items

theorem apart_join {items : List String} (h : ∀ item ∈ items, Apart item.toList) :
    Apart (String.join items).toList := by
  induction items with
  | nil => simpa using apart_nil
  | cons item items ih =>
    rw [String.join_cons, String.toList_append]
    exact (h item List.mem_cons_self).append (ih fun i hi => h i (List.mem_cons_of_mem item hi))

/-- Texts that are each kept apart from what stands in front of them. -/
theorem holds_join {items : List String} (h : ∀ item ∈ items, Apart item.toList) :
    Holds (String.join items).toList ↔ HoldsAny items := by
  induction items with
  | nil => simp
  | cons item items ih =>
    have hrest : ∀ item ∈ items, Apart item.toList := fun i hi => h i (List.mem_cons_of_mem item hi)
    rw [String.join_cons, String.toList_append, holds_append (apart_join hrest), ih hrest,
      holdsAny_cons]

theorem holds_joinParams (positional plain : List String) (rest : Option String)
    (keywordOnly : List String) (keywordRest : Option String) :
    Holds (joinParams positional plain rest keywordOnly keywordRest).toList ↔
      HoldsAny positional ∨ HoldsAny plain ∨ HoldsAny rest.toList ∨ HoldsAny keywordOnly ∨
        HoldsAny keywordRest.toList := by
  unfold joinParams
  extract_lets slash star last
  have hslash : ¬HoldsAny slash := by
    simp only [slash]
    split <;> simp [not_holds_of_not_mem]
  have hstar : HoldsAny star ↔ HoldsAny rest.toList := by
    cases rest with
    | none =>
      simp only [star]
      split <;> simp [not_holds_of_not_mem]
    | some r => simp (disch := decide) [star]
  have hlast : HoldsAny last ↔ HoldsAny keywordRest.toList := by
    cases keywordRest with
    | none => simp [last]
    | some r => simp (disch := decide) [last]
  simp only [holds_commas, holdsAny_append, hslash, hstar, hlast, or_false, or_assoc]

@[simp]
theorem not_holds_binaryText (op : BinaryOp) : ¬Holds (binaryText op).toList := by
  cases op <;> exact not_holds_of_not_mem (by decide)

@[simp]
theorem not_holds_compareText (op : CompareOp) : ¬Holds (compareText op).toList := by
  cases op <;> exact not_holds_of_not_mem (by decide)

theorem underscore_not_mem_unaryText (op : UnaryOp) : '_' ∉ (unaryText op).toList := by
  cases op <;> decide

theorem isEscape_boolText (op : BoolOp) : IsEscape (boolText op).toList := by
  cases op <;> decide

/-! ## Expressions -/

theorem apart_optional {avoid : Bool} {level : Level} {lead : String} (hlead : IsEscape lead.toList)
    {e : Option Expr} {s : String} (h : optional avoid level lead e = .ok s) : Apart s.toList := by
  cases e with
  | none =>
    obtain rfl := pure_eq_ok.mp h
    simpa using apart_nil
  | some e =>
    obtain ⟨v, -, hs⟩ := bind_eq_ok.mp h
    obtain rfl := pure_eq_ok.mp hs
    rw [String.toList_append]
    exact hlead.apart_append v.toList

theorem apart_links {avoid : Bool} {ls : List Link} {s : String} (h : links avoid ls = .ok s) :
    Apart s.toList := by
  cases ls with
  | nil =>
    obtain rfl := pure_eq_ok.mp h
    simpa using apart_nil
  | cons l ls =>
    obtain ⟨op, right⟩ := l
    simp only [links, bind_eq_ok, pure_eq_ok] at h
    obtain ⟨r, -, rest, -, rfl⟩ := h
    simpa using apart_cons rfl _

theorem apart_clauses {avoid : Bool} {cs : List Clause} {s : String}
    (h : clauses avoid cs = .ok s) : Apart s.toList := by
  cases cs with
  | nil =>
    obtain rfl := pure_eq_ok.mp h
    simpa using apart_nil
  | cons c cs =>
    obtain ⟨isAsync, target, source, conditions⟩ := c
    simp only [clauses, bind_eq_ok, pure_eq_ok] at h
    obtain ⟨t, -, source, -, ifs, -, rest, -, rfl⟩ := h
    cases isAsync <;> simpa using apart_cons rfl _

theorem apart_formatText {format : Option Expr} {t : List Char} (h : formatText format = .ok t) :
    Apart t := by
  cases format with
  | none =>
    obtain rfl := pure_eq_ok.mp h
    exact apart_nil
  | some e =>
    obtain ⟨v, -, hs⟩ := bind_eq_ok.mp h
    obtain rfl := pure_eq_ok.mp hs
    exact apart_cons rfl v

/-- A field holds what its value and its format hold; a conversion is a single character. -/
theorem fieldText_eq {value : String} {conversion : Option Char} {format t : List Char}
    (hformat : Apart format) (h : fieldText value conversion format = .ok t) :
    ∃ body, t = '\x7b' :: body ++ ['\x7d'] ∧ (Holds body ↔ Holds value.toList ∨ Holds format) := by
  unfold fieldText at h
  extract_lets cs gap conv at h
  have hgap : '_' ∉ gap := by
    simp only [gap]
    split <;> decide
  have hconv : Holds (cs ++ conv ++ format) ↔ Holds cs ∨ Holds format := by
    cases conversion with
    | none => simpa [conv] using holds_append hformat
    | some c =>
      have hc : Holds ([c] ++ format) ↔ Holds format := by
        rw [holds_append hformat, or_iff_right (not_holds_singleton c)]
      simpa (disch := decide) [conv] using or_congr_right hc
  split at h
  · cases h
  · cases h
    refine ⟨gap ++ cs ++ conv ++ format, by simp, ?_⟩
    rw [List.append_assoc, List.append_assoc, holds_append_of_not_mem hgap, ← List.append_assoc,
      hconv]

/-- A printed part of a template is its text with the braces of a field filled, and holds a
placeholder in them just when the words of the field do. -/
def Fills (e : Expr) (t : List Char) : Prop :=
  ∃ fills, Writes (partText e) t fills ∧ ((∃ body ∈ fills, Holds body) ↔ Holding (partWords e))

theorem escapes_doubleBraces (s : String) : Escapes s.toList (doubleBraces s) := by
  refine Escapes.flatMap (fun c => ?_) s.toList
  split
  next hc =>
    simp only [Bool.or_eq_true, beq_iff_eq] at hc
    obtain rfl | rfl := hc
    · exact .inr ⟨rfl, isEscape_cons rfl (by decide)⟩
    · exact .inr ⟨rfl, isEscape_cons rfl (by decide)⟩
  next => exact .inl rfl

/-- What is printed inside the quotes of a template holds a placeholder just when its words do. -/
theorem Fills.holds_iff {e : Expr} {t : List Char} (hfills : Fills e t) (h : inner e = .ok t) :
    Holds t ↔ Holding e.words := by
  obtain ⟨fills, hwrites, hbodies⟩ := hfills
  rw [hwrites.holds_iff, hbodies]
  cases e with
  | template parts => simp [partText, partWords, Expr.words]
  | field value conversion format =>
    simp (disch := decide) [partText, partWords, Expr.words]
  | constant c =>
    cases c with
    | text s marked => simp [partText, partWords, Expr.words, Quoting.constantText]
    | _ => cases h
  | _ => cases h

/-- The clauses of a comprehension are kept apart from what stands in front of them. -/
theorem holds_append_clauses {avoid : Bool} {cs : List Clause} {c : String}
    (hc : clauses avoid cs = .ok c) {xs ys : List Char} {closing : Char}
    (hclosing : isMark closing = false) :
    Holds (xs ++ (c.toList ++ closing :: ys)) ↔ Holds xs ∨ Holds c.toList ∨ Holds ys := by
  have hapart : Apart (c.toList ++ closing :: ys) := (apart_clauses hc).append (apart_cons hclosing ys)
  rw [holds_append hapart, holds_append_cons hclosing]

mutual

theorem expr_holds (e : Expr) {avoid : Bool} {level : Level} {s : String}
    (h : expr avoid level e = .ok s) : Holds s.toList ↔ Holding e.words := by
  cases e with
  | boolean op values =>
    simp only [expr, bind_eq_ok, pure_eq_ok] at h
    obtain ⟨items, hitems, rfl⟩ := h
    rw [holds_parens, holds_intercalate (isEscape_boolText op), rising_holds values hitems,
      Expr.words]
  | named target value =>
    simp only [expr, bind_eq_ok, pure_eq_ok] at h
    obtain ⟨t, ht, v, hv, rfl⟩ := h
    simp (disch := decide) [Expr.words, expr_holds target ht, expr_holds value hv]
  | binary op left right =>
    simp only [expr, bind_eq_ok, pure_eq_ok] at h
    obtain ⟨l, hl, r, hr, rfl⟩ := h
    simp (disch := decide) [Expr.words, expr_holds left hl, expr_holds right hr]
  | unary op operand =>
    simp only [expr, bind_eq_ok, pure_eq_ok] at h
    obtain ⟨o, ho, rfl⟩ := h
    rw [holds_parens, String.toList_append, holds_append_of_not_mem (underscore_not_mem_unaryText op),
      expr_holds operand ho, Expr.words]
  | lambda ps body =>
    simp only [expr, bind_eq_ok, pure_eq_ok] at h
    obtain ⟨p, hp, b, hb, rfl⟩ := h
    have hshown : Holds (if p.isEmpty then "" else " " ++ p).toList ↔ Holds p.toList := by
      split
      next hempty => simp [String.isEmpty_iff.mp hempty]
      next => simp (disch := decide)
    generalize (if p.isEmpty then "" else " " ++ p) = shown at hshown ⊢
    simp (disch := decide) [Expr.words, hshown, params_holds ps hp, expr_holds body hb]
  | conditional test body orelse =>
    simp only [expr, bind_eq_ok, pure_eq_ok] at h
    obtain ⟨b, hb, t, ht, o, ho, rfl⟩ := h
    simp (disch := decide) [Expr.words, expr_holds test ht, expr_holds body hb,
      expr_holds orelse ho, or_left_comm]
  | dict items =>
    simp only [expr, bind_eq_ok, pure_eq_ok] at h
    obtain ⟨is, his, rfl⟩ := h
    simp (disch := decide) [Expr.words, dictItems_holds items his]
  | set items =>
    cases items with
    | nil =>
      obtain rfl := pure_eq_ok.mp h
      simp (disch := decide) [Expr.words, wordsIn]
    | cons e es =>
      simp only [expr, bind_eq_ok, pure_eq_ok] at h
      obtain ⟨is, his, rfl⟩ := h
      simp (disch := decide) [Expr.words, exprs_holds (e :: es) his]
  | listComp element cs =>
    simp only [expr, bind_eq_ok, pure_eq_ok] at h
    obtain ⟨e, he, c, hc, rfl⟩ := h
    simp (disch := decide) [Expr.words, holds_append_clauses hc, expr_holds element he,
      clauses_holds cs hc]
  | setComp element cs =>
    simp only [expr, bind_eq_ok, pure_eq_ok] at h
    obtain ⟨e, he, c, hc, rfl⟩ := h
    simp (disch := decide) [Expr.words, holds_append_clauses hc, expr_holds element he,
      clauses_holds cs hc]
  | dictComp key value cs =>
    simp only [expr, bind_eq_ok, pure_eq_ok] at h
    obtain ⟨k, hk, v, hv, c, hc, rfl⟩ := h
    simp (disch := decide) [Expr.words, holds_append_clauses hc, expr_holds key hk,
      expr_holds value hv, clauses_holds cs hc]
  | generator element cs =>
    simp only [expr, bind_eq_ok, pure_eq_ok] at h
    obtain ⟨e, he, c, hc, rfl⟩ := h
    simp (disch := decide) [Expr.words, holds_append_clauses hc, expr_holds element he,
      clauses_holds cs hc]
  | await value =>
    simp only [expr, bind_eq_ok, pure_eq_ok] at h
    obtain ⟨v, hv, rfl⟩ := h
    simp (disch := decide) [Expr.words, expr_holds value hv]
  | yield value =>
    simp only [expr, bind_eq_ok, pure_eq_ok] at h
    obtain ⟨v, hv, rfl⟩ := h
    simp (disch := decide) [Expr.words, optional_holds value (by decide) hv]
  | yieldFrom value =>
    simp only [expr, bind_eq_ok, pure_eq_ok] at h
    obtain ⟨v, hv, rfl⟩ := h
    simp (disch := decide) [Expr.words, expr_holds value hv]
  | compare left ls =>
    simp only [expr, bind_eq_ok, pure_eq_ok] at h
    obtain ⟨l, hl, r, hr, rfl⟩ := h
    rw [holds_parens, String.toList_append, holds_append (apart_links hr), expr_holds left hl,
      links_holds ls hr, Expr.words, holding_append]
  | call function args kws =>
    simp only [expr, bind_eq_ok, pure_eq_ok] at h
    obtain ⟨f, hf, as, has, ks, hks, rfl⟩ := h
    simp (disch := decide) [Expr.words, expr_holds function hf, exprs_holds args has,
      keywords_holds kws hks]
  | field value conversion format =>
    simp only [expr, bind_eq_ok, pure_eq_ok] at h
    obtain ⟨v, hv, f, hf, t, ht, rfl⟩ := h
    obtain ⟨body, rfl, hbody⟩ := fieldText_eq (apart_formatText hf) ht
    simp (disch := decide) [Expr.words, hbody, expr_holds value hv, formatText_holds format hf]
  | template ps =>
    simp only [expr, bind_eq_ok] at h
    obtain ⟨written, hwritten, h⟩ := h
    obtain ⟨fills, hwrites, hbodies⟩ := parts_fill ps hwritten
    have hparts : Holds (written.map (·.1)).flatten ↔ Holding (Expr.template ps).words := by
      rw [hwrites.holds_iff, hbodies, Expr.words, holding_cons, chars_text]
    split at h
    · obtain rfl := pure_eq_ok.mp h
      simpa (disch := decide) [Quoting.holds_fitted Quoting.areQuotes_allQuotes] using hparts
    · obtain rfl := pure_eq_ok.mp h
      simpa (disch := decide) [Quoting.holds_template] using hparts
  | constant c =>
    obtain rfl := pure_eq_ok.mp h
    simpa [Expr.words] using Quoting.holds_constant avoid c
  | «attribute» value name =>
    simp only [expr, bind_eq_ok, pure_eq_ok] at h
    obtain ⟨v, hv, rfl⟩ := h
    split <;> simp (disch := decide) [Expr.words, expr_holds value hv]
  | subscript value index =>
    simp only [expr, bind_eq_ok, pure_eq_ok] at h
    obtain ⟨v, hv, i, hi, rfl⟩ := h
    simp (disch := decide) [Expr.words, expr_holds value hv, expr_holds index hi]
  | starred value =>
    simp only [expr, bind_eq_ok, pure_eq_ok] at h
    obtain ⟨v, hv, rfl⟩ := h
    simp (disch := decide) [Expr.words, expr_holds value hv]
  | name id =>
    obtain rfl := pure_eq_ok.mp h
    simp [Expr.words]
  | list items =>
    simp only [expr, bind_eq_ok, pure_eq_ok] at h
    obtain ⟨is, his, rfl⟩ := h
    simp (disch := decide) [Expr.words, exprs_holds items his]
  | tuple items =>
    simp only [expr, bind_eq_ok, pure_eq_ok] at h
    obtain ⟨is, his, rfl⟩ := h
    rw [holds_parens, holds_tupleItems, exprs_holds items his, Expr.words]
  | slice lower upper step =>
    simp only [expr, bind_eq_ok, pure_eq_ok] at h
    obtain ⟨l, hl, u, hu, s, hs, rfl⟩ := h
    simp (disch := decide) [Expr.words, holds_append (apart_optional (by decide) hs),
      optional_holds lower (by decide) hl, optional_holds upper (by decide) hu,
      optional_holds step (by decide) hs]

theorem exprs_holds (es : List Expr) {avoid : Bool} {level : Level} {ss : List String}
    (h : exprs avoid level es = .ok ss) : HoldsAny ss ↔ Holding (wordsIn es) := by
  cases es with
  | nil =>
    obtain rfl := pure_eq_ok.mp h
    simp [wordsIn]
  | cons e es =>
    simp only [exprs, bind_eq_ok, pure_eq_ok] at h
    obtain ⟨s, hs, ss, hss, rfl⟩ := h
    rw [holdsAny_cons, expr_holds e hs, exprs_holds es hss, wordsIn, holding_append]

theorem rising_holds (es : List Expr) {avoid : Bool} {level : Level} {ss : List String}
    (h : rising avoid level es = .ok ss) : HoldsAny ss ↔ Holding (wordsIn es) := by
  cases es with
  | nil =>
    obtain rfl := pure_eq_ok.mp h
    simp [wordsIn]
  | cons e es =>
    simp only [rising, bind_eq_ok, pure_eq_ok] at h
    obtain ⟨s, hs, ss, hss, rfl⟩ := h
    rw [holdsAny_cons, expr_holds e hs, rising_holds es hss, wordsIn, holding_append]

theorem dictItems_holds (is : List DictItem) {avoid : Bool} {ss : List String}
    (h : dictItems avoid is = .ok ss) : HoldsAny ss ↔ Holding (wordsInItems is) := by
  cases is with
  | nil =>
    obtain rfl := pure_eq_ok.mp h
    simp [wordsInItems]
  | cons i is =>
    cases i with
    | pair key value =>
      simp only [dictItems, bind_eq_ok, pure_eq_ok] at h
      obtain ⟨k, hk, v, hv, ss, hss, rfl⟩ := h
      simp (disch := decide) [wordsInItems, DictItem.words, expr_holds key hk, expr_holds value hv,
        dictItems_holds is hss, or_assoc]
    | spread value =>
      simp only [dictItems, bind_eq_ok, pure_eq_ok] at h
      obtain ⟨v, hv, ss, hss, rfl⟩ := h
      simp (disch := decide) [wordsInItems, DictItem.words, expr_holds value hv,
        dictItems_holds is hss]

/-- Nothing, or an expression behind a lead that holds no placeholder. -/
theorem optional_holds (e : Option Expr) {avoid : Bool} {level : Level} {lead s : String}
    (hlead : '_' ∉ lead.toList) (h : optional avoid level lead e = .ok s) :
    Holds s.toList ↔ Holding (wordsInOption e) := by
  cases e with
  | none =>
    obtain rfl := pure_eq_ok.mp h
    simp [wordsInOption]
  | some e =>
    simp only [optional, bind_eq_ok, pure_eq_ok] at h
    obtain ⟨v, hv, rfl⟩ := h
    rw [String.toList_append, holds_append_of_not_mem hlead, expr_holds e hv, wordsInOption]

theorem links_holds (ls : List Link) {avoid : Bool} {s : String} (h : links avoid ls = .ok s) :
    Holds s.toList ↔ Holding (wordsInLinks ls) := by
  cases ls with
  | nil =>
    obtain rfl := pure_eq_ok.mp h
    simp [wordsInLinks]
  | cons l ls =>
    cases l with
    | mk op right =>
      simp only [links, bind_eq_ok, pure_eq_ok] at h
      obtain ⟨r, hr, rest, hrest, rfl⟩ := h
      simp (disch := decide) [wordsInLinks, Link.words, holds_append (apart_links hrest),
        expr_holds right hr, links_holds ls hrest]

theorem keywords_holds (ks : List Keyword) {avoid : Bool} {ss : List String}
    (h : keywords avoid ks = .ok ss) : HoldsAny ss ↔ Holding (wordsInKeywords ks) := by
  cases ks with
  | nil =>
    obtain rfl := pure_eq_ok.mp h
    simp [wordsInKeywords]
  | cons k ks =>
    cases k with
    | named name value =>
      simp only [keywords, bind_eq_ok, pure_eq_ok] at h
      obtain ⟨v, hv, ss, hss, rfl⟩ := h
      simp (disch := decide) [wordsInKeywords, Keyword.words, expr_holds value hv,
        keywords_holds ks hss, or_assoc]
    | spread value =>
      simp only [keywords, bind_eq_ok, pure_eq_ok] at h
      obtain ⟨v, hv, ss, hss, rfl⟩ := h
      simp (disch := decide) [wordsInKeywords, Keyword.words, expr_holds value hv,
        keywords_holds ks hss]

theorem clauses_holds (cs : List Clause) {avoid : Bool} {s : String}
    (h : clauses avoid cs = .ok s) : Holds s.toList ↔ Holding (wordsInClauses cs) := by
  cases cs with
  | nil =>
    obtain rfl := pure_eq_ok.mp h
    simp [wordsInClauses]
  | cons c cs =>
    cases c with
    | mk isAsync target source conditions =>
      simp only [clauses, bind_eq_ok, pure_eq_ok] at h
      obtain ⟨t, ht, s, hs, ifs, hifs, rest, hrest, rfl⟩ := h
      have hlead : '_' ∉ (if isAsync then " async for " else " for ").toList := by
        cases isAsync <;> decide
      have hitems : ∀ item ∈ ifs.map (" if " ++ ·), Apart item.toList := by
        intro item hitem
        obtain ⟨i, -, rfl⟩ := List.mem_map.mp hitem
        simpa using apart_cons rfl _
      have hconditions : Holds (String.join (ifs.map (" if " ++ ·))).toList ↔ HoldsAny ifs := by
        rw [holds_join hitems]
        simp (disch := decide) [HoldsAny]
      have hhead : Holds (t ++ " in " ++ s).toList ↔ Holding target.words ∨ Holding source.words := by
        simp (disch := decide) [expr_holds target ht, expr_holds source hs]
      rw [String.toList_append, holds_append (apart_clauses hrest), String.toList_append,
        holds_append (apart_join hitems), hconditions, exprs_holds conditions hifs,
        clauses_holds cs hrest, wordsInClauses, Clause.words, holding_append, holding_append,
        holding_append, ← hhead, String.append_assoc, String.append_assoc, String.toList_append,
        holds_append_of_not_mem hlead, String.append_assoc]

theorem param_holds (p : Param) {avoid : Bool} {s : String} (h : param avoid p = .ok s) :
    Holds s.toList ↔ Holding p.words := by
  cases p with
  | mk name hint default =>
    simp only [param, bind_eq_ok, pure_eq_ok] at h
    obtain ⟨t, ht, d, hd, rfl⟩ := h
    have hhint := apart_optional (by decide) ht
    have hdefault := apart_optional (by decide) hd
    simp only [String.toList_append, holds_append hdefault, holds_append hhint, Param.words,
      holding_append, holding_cons, chars_label, optional_holds hint (by decide) ht,
      optional_holds default (by decide) hd]

theorem paramList_holds (ps : List Param) {avoid : Bool} {ss : List String}
    (h : paramList avoid ps = .ok ss) : HoldsAny ss ↔ Holding (wordsInParams ps) := by
  cases ps with
  | nil =>
    obtain rfl := pure_eq_ok.mp h
    simp [wordsInParams]
  | cons p ps =>
    simp only [paramList, bind_eq_ok, pure_eq_ok] at h
    obtain ⟨s, hs, ss, hss, rfl⟩ := h
    rw [holdsAny_cons, param_holds p hs, paramList_holds ps hss, wordsInParams, holding_append]

theorem optionalParam_holds (p : Option Param) {avoid : Bool} {o : Option String}
    (h : optionalParam avoid p = .ok o) : HoldsAny o.toList ↔ Holding (wordsInParam p) := by
  cases p with
  | none =>
    obtain rfl := pure_eq_ok.mp h
    simp [wordsInParam]
  | some p =>
    simp only [optionalParam, bind_eq_ok, pure_eq_ok] at h
    obtain ⟨s, hs, rfl⟩ := h
    simp [wordsInParam, param_holds p hs]

theorem params_holds (ps : Params) {avoid : Bool} {s : String} (h : params avoid ps = .ok s) :
    Holds s.toList ↔ Holding ps.words := by
  cases ps with
  | mk positional plain rest keywordOnly keywordRest =>
    simp only [params, bind_eq_ok, pure_eq_ok] at h
    obtain ⟨a, ha, b, hb, c, hc, d, hd, e, he, rfl⟩ := h
    simp only [holds_joinParams, paramList_holds positional ha, paramList_holds plain hb,
      optionalParam_holds rest hc, paramList_holds keywordOnly hd,
      optionalParam_holds keywordRest he, Params.words, holding_append, or_assoc]

theorem formatText_holds (format : Option Expr) {t : List Char} (h : formatText format = .ok t) :
    Holds t ↔ Holding (wordsInOption format) := by
  cases format with
  | none =>
    obtain rfl := pure_eq_ok.mp h
    simp [wordsInOption]
  | some e =>
    simp only [formatText, bind_eq_ok, pure_eq_ok] at h
    obtain ⟨v, hv, rfl⟩ := h
    rw [holds_cons_of_ne (by decide), (inner_fills e hv).holds_iff hv, wordsInOption]

theorem inner_fills (e : Expr) {t : List Char} (h : inner e = .ok t) : Fills e t := by
  cases e with
  | template ps =>
    simp only [inner, bind_eq_ok, pure_eq_ok] at h
    obtain ⟨written, hwritten, rfl⟩ := h
    obtain ⟨fills, hwrites, hbodies⟩ := parts_fill ps hwritten
    exact ⟨fills, by simpa [partText, List.flatMap] using hwrites, hbodies⟩
  | constant c =>
    cases c with
    | text s marked =>
      obtain rfl := pure_eq_ok.mp h
      exact ⟨[], escapes_doubleBraces s, by simp [partWords]⟩
    | _ => cases h
  | field value conversion format =>
    simp only [inner, bind_eq_ok] at h
    obtain ⟨v, hv, f, hf, ht⟩ := h
    obtain ⟨body, rfl, hbody⟩ := fieldText_eq (apart_formatText hf) ht
    refine ⟨[body], .fill body .nil, ?_⟩
    simp [partWords, hbody, expr_holds value hv, formatText_holds format hf]
  | _ => cases h

theorem parts_fill (es : List Expr) {written : List (List Char × Bool)}
    (h : parts es = .ok written) : ∃ fills,
      Writes (templateText es) (written.map (·.1)).flatten fills ∧
        ((∃ body ∈ fills, Holds body) ↔ Holding (wordsInParts es)) := by
  cases es with
  | nil =>
    obtain rfl := pure_eq_ok.mp h
    exact ⟨[], .nil, by simp [wordsInParts]⟩
  | cons e es =>
    simp only [parts, bind_eq_ok, pure_eq_ok] at h
    obtain ⟨t, ht, written, hwritten, rfl⟩ := h
    obtain ⟨fills, hwrites, hbodies⟩ := inner_fills e ht
    obtain ⟨fills', hwrites', hbodies'⟩ := parts_fill es hwritten
    refine ⟨fills ++ fills', hwrites.append hwrites', ?_⟩
    rw [wordsInParts, holding_append, ← hbodies, ← hbodies']
    simp only [List.mem_append, or_and_right, exists_or]

end

mutual

theorem pattern_holds (p : Pattern) {level : Level} {s : String} (h : pattern level p = .ok s) :
    Holds s.toList ↔ Holding p.words := by
  cases p with
  | value e => exact expr_holds e h
  | singleton c =>
    obtain rfl := pure_eq_ok.mp h
    simpa [Pattern.words] using Quoting.holds_constant false c
  | sequence items =>
    simp only [pattern, bind_eq_ok, pure_eq_ok] at h
    obtain ⟨is, his, rfl⟩ := h
    simp (disch := decide) [Pattern.words, patterns_holds items his]
  | mapping items rest =>
    simp only [pattern, bind_eq_ok, pure_eq_ok] at h
    obtain ⟨is, his, rfl⟩ := h
    cases rest <;>
      simp (disch := decide) [Pattern.words, keyPatterns_holds items his, labels]
  | object cls items attributes =>
    simp only [pattern, bind_eq_ok, pure_eq_ok] at h
    obtain ⟨c, hc, is, his, as, has, rfl⟩ := h
    simp (disch := decide) [Pattern.words, expr_holds cls hc, patterns_holds items his,
      namedPatterns_holds attributes has]
  | star name =>
    obtain rfl := pure_eq_ok.mp h
    cases name <;> simp (disch := decide) [Pattern.words, labels, not_holds_singleton]
  | capture p name =>
    cases name with
    | none =>
      obtain rfl := pure_eq_ok.mp h
      simp [Pattern.words, not_holds_singleton]
    | some name =>
      simp only [pattern, bind_eq_ok] at h
      obtain ⟨o, ho, h⟩ := h
      have hpattern := optionalPattern_holds p ho
      cases o with
      | none =>
        obtain rfl := pure_eq_ok.mp h
        simp [Pattern.words, ← hpattern]
      | some text =>
        obtain rfl := pure_eq_ok.mp h
        simp (disch := decide) [Pattern.words, ← hpattern]
  | either items =>
    simp only [pattern, bind_eq_ok, pure_eq_ok] at h
    obtain ⟨is, his, rfl⟩ := h
    rw [holds_parens, holds_intercalate (by decide), patterns_holds items his,
      Pattern.words]

theorem optionalPattern_holds (p : Option Pattern) {o : Option String}
    (h : optionalPattern p = .ok o) : HoldsAny o.toList ↔ Holding (wordsInPattern p) := by
  cases p with
  | none =>
    obtain rfl := pure_eq_ok.mp h
    simp [wordsInPattern]
  | some p =>
    simp only [optionalPattern, bind_eq_ok, pure_eq_ok] at h
    obtain ⟨s, hs, rfl⟩ := h
    simp [wordsInPattern, pattern_holds p hs]

theorem patterns_holds (ps : List Pattern) {level : Level} {ss : List String}
    (h : patterns level ps = .ok ss) : HoldsAny ss ↔ Holding (wordsInPatterns ps) := by
  cases ps with
  | nil =>
    obtain rfl := pure_eq_ok.mp h
    simp [wordsInPatterns]
  | cons p ps =>
    simp only [patterns, bind_eq_ok, pure_eq_ok] at h
    obtain ⟨s, hs, ss, hss, rfl⟩ := h
    rw [holdsAny_cons, pattern_holds p hs, patterns_holds ps hss, wordsInPatterns, holding_append]

theorem keyPatterns_holds (ps : List KeyPattern) {ss : List String} (h : keyPatterns ps = .ok ss) :
    HoldsAny ss ↔ Holding (wordsInKeyPatterns ps) := by
  cases ps with
  | nil =>
    obtain rfl := pure_eq_ok.mp h
    simp [wordsInKeyPatterns]
  | cons p ps =>
    cases p with
    | mk key p =>
      simp only [keyPatterns, bind_eq_ok, pure_eq_ok] at h
      obtain ⟨k, hk, s, hs, ss, hss, rfl⟩ := h
      simp (disch := decide) [wordsInKeyPatterns, KeyPattern.words, expr_holds key hk,
        pattern_holds p hs, keyPatterns_holds ps hss, or_assoc]

theorem namedPatterns_holds (ps : List NamedPattern) {ss : List String}
    (h : namedPatterns ps = .ok ss) : HoldsAny ss ↔ Holding (wordsInNamedPatterns ps) := by
  cases ps with
  | nil =>
    obtain rfl := pure_eq_ok.mp h
    simp [wordsInNamedPatterns]
  | cons p ps =>
    cases p with
    | mk name p =>
      simp only [namedPatterns, bind_eq_ok, pure_eq_ok] at h
      obtain ⟨s, hs, ss, hss, rfl⟩ := h
      simp (disch := decide) [wordsInNamedPatterns, NamedPattern.words, pattern_holds p hs,
        namedPatterns_holds ps hss, or_assoc]

end

/-! ## Statements -/

/-- Lines that are kept apart from those in front of them, with their words. -/
structure Prints (s : String) (ws : List Word) : Prop where
  apart : Apart s.toList
  holds_iff : Holds s.toList ↔ Holding ws

theorem prints_empty : Prints "" [] := ⟨by simpa using apart_nil, by simp⟩

theorem Prints.append {s s' : String} {ws ws' : List Word} (h : Prints s ws) (h' : Prints s' ws') :
    Prints (s ++ s') (ws ++ ws') where
  apart := by
    rw [String.toList_append]
    exact h.apart.append h'.apart
  holds_iff := by
    rw [String.toList_append, holds_append h'.apart, h.holds_iff, h'.holds_iff, holding_append]

/-- The order of words does not count. -/
theorem Prints.congr {s : String} {ws ws' : List Word} (h : Prints s ws)
    (hws : Holding ws ↔ Holding ws') : Prints s ws' := ⟨h.apart, h.holds_iff.trans hws⟩

theorem prints_line {depth : Nat} {text : String} {ws : List Word}
    (h : Holds text.toList ↔ Holding ws) : Prints (line depth text) ws := by
  have htext : (line depth text).toList = '\n' :: (List.replicate (4 * depth) ' ' ++ text.toList) := by
    simp [line]
  refine ⟨htext ▸ apart_cons rfl _, ?_⟩
  rw [htext, holds_cons_of_ne (by decide), holds_append_of_not_mem (by simp), h]

theorem prints_newline {s : String} {ws : List Word} (h : Prints s ws) : Prints ("\n" ++ s) ws where
  apart := by simpa using apart_cons rfl _
  holds_iff := by simpa (disch := decide) using h.holds_iff

theorem plain_holds (e : Expr) {s : String} (h : plain e = .ok s) :
    Holds s.toList ↔ Holding e.words := expr_holds e h

theorem plainOptional_holds (e : Option Expr) {lead s : String} (hlead : '_' ∉ lead.toList)
    (h : plainOptional lead e = .ok s) : Holds s.toList ↔ Holding (wordsInOption e) :=
  optional_holds e hlead h

theorem withItems_holds (items : List WithItem) {ss : List String}
    (h : items.mapM withItem = .ok ss) :
    HoldsAny ss ↔ Holding (items.flatMap WithItem.words) := by
  induction items generalizing ss with
  | nil =>
    obtain rfl := pure_eq_ok.mp h
    simp
  | cons i items ih =>
    simp only [List.mapM_cons, withItem, bind_eq_ok, pure_eq_ok] at h
    obtain ⟨s, ⟨c, hc, t, ht, rfl⟩, ss, hss, rfl⟩ := h
    rw [holdsAny_cons, String.toList_append, holds_append (apart_optional (by decide) ht),
      plain_holds i.context hc, plainOptional_holds i.target (by decide) ht, ih hss,
      List.flatMap_cons, holding_append, WithItem.words, holding_append]

theorem decorators_prints (ds : List Expr) {depth : Nat} {s : String}
    (h : decorators depth ds = .ok s) : Prints s (wordsIn ds) := by
  simp only [decorators, bind_eq_ok, pure_eq_ok] at h
  obtain ⟨ss, hss, rfl⟩ := h
  induction ds generalizing ss with
  | nil =>
    obtain rfl := pure_eq_ok.mp hss
    exact prints_empty
  | cons d ds ih =>
    simp only [List.mapM_cons, bind_eq_ok, pure_eq_ok] at hss
    obtain ⟨s, ⟨t, ht, rfl⟩, ss, hss, rfl⟩ := hss
    rw [String.join_cons]
    exact (prints_line (by simpa (disch := decide) using plain_holds d ht)).append (ih ss hss)

theorem assignTargets_append_holds (targets : List Expr) {s value : String}
    (h : assignTargets targets = .ok s) :
    Holds (s ++ value).toList ↔ Holding (wordsIn targets) ∨ Holds value.toList := by
  simp only [assignTargets, bind_eq_ok, pure_eq_ok] at h
  obtain ⟨ss, hss, rfl⟩ := h
  induction targets generalizing ss with
  | nil =>
    obtain rfl := pure_eq_ok.mp hss
    simp [wordsIn]
  | cons e targets ih =>
    simp only [List.mapM_cons, bind_eq_ok, pure_eq_ok] at hss
    obtain ⟨s, ⟨t, ht, rfl⟩, ss, hss, rfl⟩ := hss
    rw [wordsIn, holding_append, or_assoc, ← ih ss hss, String.join_cons, String.append_assoc]
    simp (disch := decide) [expr_holds e ht]

theorem importedName_holds (a : Alias) : Holds (importedName a).toList ↔ Holding a.words := by
  obtain ⟨name, asName⟩ := a
  cases asName <;> simp (disch := decide) [importedName, Alias.words, labels]

theorem importedNames_holds (names : List Alias) :
    HoldsAny (names.map importedName) ↔ Holding (names.flatMap Alias.words) := by
  simp [HoldsAny, importedName_holds, holding_flatMap]

theorem names_holds (names : List String) : HoldsAny names ↔ Holding (names.map label) := by
  simp [HoldsAny, Holding]

theorem docText_holds (value : String) (marked : Bool) :
    Holds (docText value marked).toList ↔ Holds value.toList := by
  have hquotes : Quoting.AreQuotes Quoting.longQuotes :=
    Quoting.areQuotes_allQuotes.mono (by simp [Quoting.allQuotes])
  have hlead : '_' ∉ (if marked then "u" else "").toList := by cases marked <;> decide
  rw [docText, String.toList_append, holds_append_of_not_mem hlead, String.toList_ofList,
    Quoting.holds_fitted hquotes]

/-- A body prints as its statements do, unless it opens with a description. -/
theorem documented_cons {depth : Nat} {s : Stmt} {ss : List Stmt} {t : String}
    (h : documented depth (s :: ss) = .ok t) :
    stmts depth (s :: ss) = .ok t ∨
      ∃ a b, Prints a s.words ∧ stmts depth ss = .ok b ∧ t = a ++ b := by
  unfold documented at h
  split at h
  next text marked _ heq =>
    obtain ⟨rfl, rfl⟩ := List.cons.inj heq
    simp only [bind_eq_ok, pure_eq_ok] at h
    obtain ⟨b, hb, rfl⟩ := h
    refine .inr ⟨_, b, prints_line ?_, hb, rfl⟩
    simp [docText_holds, Stmt.words, Expr.words, Quoting.constantText]
  next heq =>
    obtain ⟨rfl, rfl⟩ := List.cons.inj heq
    exact .inl h
  next heq => simp at heq

theorem prints_elsePart {depth : Nat} {s : Stmt} {ss : List Stmt} {t : String}
    (h : elsePart depth (s :: ss) = .ok t)
    (hs : ∀ a, stmt (depth + 1) s = .ok a → Prints a s.words)
    (hss : ∀ b, stmts (depth + 1) ss = .ok b → Prints b (wordsInBody ss)) :
    Prints t (wordsInBody (s :: ss)) := by
  simp only [elsePart, bind_eq_ok, pure_eq_ok] at h
  obtain ⟨a, ha, b, hb, rfl⟩ := h
  have helse : Prints (line depth "else:") [] := prints_line (by simp (disch := decide))
  have hbody : Prints (a ++ b) (wordsInBody (s :: ss)) := (hs a ha).append (hss b hb)
  rw [String.append_assoc]
  exact helse.append hbody

/-- A branch alone after `else` joins it, and prints as it does by itself but for the head. -/
theorem elifPart_cons {depth : Nat} {s : Stmt} {ss : List Stmt} {t : String}
    (h : elifPart depth (s :: ss) = .ok t) :
    elsePart depth (s :: ss) = .ok t ∨
      ∃ a, ss = [] ∧ stmt depth s = .ok a ∧ ∀ {ws}, Prints a ws → Prints t ws := by
  unfold elifPart at h
  split at h
  next test body orelse heq =>
    obtain ⟨rfl, rfl⟩ := List.cons.inj heq
    simp only [bind_eq_ok, pure_eq_ok] at h
    obtain ⟨v, hv, b, hb, o, ho, rfl⟩ := h
    refine .inr ⟨line depth ("if " ++ v ++ ":") ++ b ++ o, rfl, ?_, ?_⟩
    · simp only [stmt, bind_eq_ok, pure_eq_ok]
      exact ⟨v, hv, b, hb, o, ho, rfl⟩
    · intro ws hprints
      have hindent : '_' ∉ List.replicate (4 * depth) ' ' := by simp
      refine ⟨by simpa [line] using apart_cons rfl _, Iff.trans ?_ hprints.holds_iff⟩
      simp (disch := decide) [line, holds_append_of_not_mem hindent]
  next heq =>
    obtain ⟨rfl, rfl⟩ := List.cons.inj heq
    exact .inl h
  next heq => simp at heq

/-- The bases of a class stand in brackets, or there is nothing after its name. -/
theorem classHead_holds (name : String) (args : List String) :
    Holds ("class " ++ name ++ parens (!args.isEmpty) (commas args) ++ ":").toList ↔
      Holds name.toList ∨ HoldsAny args := by
  cases args with
  | nil => simp (disch := decide) [parens, commas]
  | cons a as => simp (disch := decide) [parens]

theorem importHead_holds (level : Nat) (module : Option String) (names : List String) :
    Holds ("from " ++ String.ofList (List.replicate level '.') ++ module.getD "" ++ " import " ++
        commas names).toList ↔ Holding (labels module) ∨ HoldsAny names := by
  have hdots : '_' ∉ List.replicate level '.' := by simp
  simp (disch := decide) [holds_append_of_not_mem hdots]
  cases module <;> simp [labels]

theorem handlerHead_holds (grouped : Bool) (name : Option String) (type : Option Expr) {s : String}
    (h : plainOptional " " type = .ok s) :
    Holds ((if grouped then "except*" else "except") ++ s ++
        (match name with
          | some n => " as " ++ n
          | none => "") ++ ":").toList ↔ Holding (wordsInOption type ++ labels name) := by
  have hlead : '_' ∉ (if grouped then "except*" else "except").toList := by
    cases grouped <;> decide
  simp only [String.append_assoc]
  rw [String.toList_append, holds_append_of_not_mem hlead]
  cases name <;> simp (disch := decide) [labels, plainOptional_holds type (by decide) h]

mutual

theorem stmt_prints (s : Stmt) {depth : Nat} {t : String} (h : stmt depth s = .ok t) :
    Prints t s.words := by
  cases s with
  | function isAsync name ps body ds returns =>
    simp only [stmt, bind_eq_ok, pure_eq_ok] at h
    obtain ⟨p, hp, r, hr, d, hd, b, hb, rfl⟩ := h
    have hlead : '_' ∉ (if isAsync then "async def " else "def ").toList := by
      cases isAsync <;> decide
    have hhead : Holds ((if isAsync then "async def " else "def ") ++ name ++ "(" ++ p ++ ")" ++ r ++
        ":").toList ↔ Holding (label name :: ps.words ++ wordsInOption returns) := by
      simp only [String.append_assoc]
      rw [String.toList_append, holds_append_of_not_mem hlead]
      simp (disch := decide) [params_holds ps hp, plainOptional_holds returns (by decide) hr]
    exact ((prints_newline (decorators_prints ds hd)).append (prints_line hhead)).append
      (documented_prints body hb)
  | cls name bases kws body ds =>
    simp only [stmt, bind_eq_ok, pure_eq_ok] at h
    obtain ⟨as, has, ks, hks, d, hd, b, hb, rfl⟩ := h
    have hhead : Holds ("class " ++ name ++ parens (!(as ++ ks).isEmpty) (commas (as ++ ks)) ++
        ":").toList ↔ Holding (label name :: wordsIn bases ++ wordsInKeywords kws) := by
      rw [classHead_holds, holdsAny_append, exprs_holds bases has, keywords_holds kws hks]
      simp
    exact ((prints_newline (decorators_prints ds hd)).append (prints_line hhead)).append
      (documented_prints body hb)
  | ret value =>
    simp only [stmt, bind_eq_ok, pure_eq_ok] at h
    obtain ⟨v, hv, rfl⟩ := h
    exact prints_line (by
      simpa (disch := decide) [Stmt.words] using plainOptional_holds value (by decide) hv)
  | delete targets =>
    simp only [stmt, bind_eq_ok, pure_eq_ok] at h
    obtain ⟨ts, hts, rfl⟩ := h
    exact prints_line (by simpa (disch := decide) [Stmt.words] using exprs_holds targets hts)
  | assign targets value =>
    simp only [stmt, bind_eq_ok, pure_eq_ok] at h
    obtain ⟨t, ht, v, hv, rfl⟩ := h
    refine prints_line ?_
    rw [assignTargets_append_holds targets ht, plain_holds value hv]
    exact holding_append.symm
  | augAssign target op value =>
    simp only [stmt, bind_eq_ok, pure_eq_ok] at h
    obtain ⟨t, ht, v, hv, rfl⟩ := h
    exact prints_line (by
      simp (disch := decide) [Stmt.words, plain_holds target ht, plain_holds value hv])
  | annAssign target hint value simple =>
    simp only [stmt, annTarget, bind_eq_ok, pure_eq_ok] at h
    obtain ⟨a, ⟨t, ht, rfl⟩, n, hn, v, hv, rfl⟩ := h
    refine prints_line ?_
    simp (disch := decide) [Stmt.words, holds_append (apart_optional (by decide) hv),
      plain_holds target ht, plain_holds hint hn, plainOptional_holds value (by decide) hv]
  | forLoop isAsync target source body orelse =>
    simp only [stmt, bind_eq_ok, pure_eq_ok] at h
    obtain ⟨t, ht, v, hv, b, hb, o, ho, rfl⟩ := h
    have hlead : '_' ∉ (if isAsync then "async for " else "for ").toList := by
      cases isAsync <;> decide
    have hhead : Holds ((if isAsync then "async for " else "for ") ++ t ++ " in " ++ v ++
        ":").toList ↔ Holding (target.words ++ source.words) := by
      simp only [String.append_assoc]
      rw [String.toList_append, holds_append_of_not_mem hlead]
      simp (disch := decide) [expr_holds target ht, plain_holds source hv]
    exact ((prints_line hhead).append (stmts_print body hb)).append (elsePart_prints orelse ho)
  | whileLoop test body orelse =>
    simp only [stmt, bind_eq_ok, pure_eq_ok] at h
    obtain ⟨t, ht, b, hb, o, ho, rfl⟩ := h
    have hhead : Prints (line depth ("while " ++ t ++ ":")) test.words :=
      prints_line (by simpa (disch := decide) using plain_holds test ht)
    exact (hhead.append (stmts_print body hb)).append (elsePart_prints orelse ho)
  | branch test body orelse =>
    simp only [stmt, bind_eq_ok, pure_eq_ok] at h
    obtain ⟨t, ht, b, hb, o, ho, rfl⟩ := h
    have hhead : Prints (line depth ("if " ++ t ++ ":")) test.words :=
      prints_line (by simpa (disch := decide) using plain_holds test ht)
    exact (hhead.append (stmts_print body hb)).append (elifPart_prints orelse ho)
  | withBlock isAsync items body =>
    simp only [stmt, bind_eq_ok, pure_eq_ok] at h
    obtain ⟨is, his, b, hb, rfl⟩ := h
    have hlead : '_' ∉ (if isAsync then "async with " else "with ").toList := by
      cases isAsync <;> decide
    have hhead : Holds ((if isAsync then "async with " else "with ") ++ commas is ++ ":").toList ↔
        Holding (items.flatMap WithItem.words) := by
      rw [String.append_assoc, String.toList_append, holds_append_of_not_mem hlead]
      simpa (disch := decide) using withItems_holds items his
    exact (prints_line hhead).append (stmts_print body hb)
  | matchOn subject cs =>
    simp only [stmt, bind_eq_ok, pure_eq_ok] at h
    obtain ⟨v, hv, c, hc, rfl⟩ := h
    have hhead : Prints (line depth ("match " ++ v ++ ":")) subject.words :=
      prints_line (by simpa (disch := decide) using plain_holds subject hv)
    exact hhead.append (cases_print cs hc)
  | raise exception cause =>
    cases exception with
    | none =>
      obtain rfl := pure_eq_ok.mp h
      exact prints_line (by simp (disch := decide) [Stmt.words])
    | some exception =>
      simp only [stmt, bind_eq_ok, pure_eq_ok] at h
      obtain ⟨e, he, c, hc, rfl⟩ := h
      refine prints_line ?_
      simp (disch := decide) [Stmt.words, holds_append (apart_optional (by decide) hc),
        plain_holds exception he, plainOptional_holds cause (by decide) hc]
  | attempt grouped body hs orelse final =>
    have htry : Prints (line depth "try:") [] := prints_line (by simp (disch := decide))
    have hfinally : Prints (line depth "finally:") [] := prints_line (by simp (disch := decide))
    simp only [stmt] at h
    split at h
    next hempty =>
      simp only [bind_eq_ok, pure_eq_ok] at h
      obtain ⟨l, rfl, b, hb, c, hc, o, ho, rfl⟩ := h
      have hprints := (((htry.append (stmts_print body hb)).append (handlers_print hs hc)).append
        (elsePart_prints orelse ho)).append prints_empty
      exact hprints.congr (by simp [Stmt.words, wordsInBody, List.isEmpty_iff.mp hempty])
    next =>
      simp only [bind_eq_ok, pure_eq_ok] at h
      obtain ⟨f, hf, l, rfl, b, hb, c, hc, o, ho, rfl⟩ := h
      have hprints := (((htry.append (stmts_print body hb)).append (handlers_print hs hc)).append
        (elsePart_prints orelse ho)).append (hfinally.append (stmts_print final hf))
      exact hprints.congr (by simp [Stmt.words])
  | assertion test message =>
    simp only [stmt, bind_eq_ok, pure_eq_ok] at h
    obtain ⟨t, ht, m, hm, rfl⟩ := h
    refine prints_line ?_
    simp (disch := decide) [Stmt.words, holds_append (apart_optional (by decide) hm),
      plain_holds test ht, plainOptional_holds message (by decide) hm]
  | importNames names =>
    obtain rfl := pure_eq_ok.mp h
    exact prints_line (by simpa (disch := decide) [Stmt.words] using importedNames_holds names)
  | importFrom module names level =>
    obtain rfl := pure_eq_ok.mp h
    refine prints_line ?_
    rw [importHead_holds, importedNames_holds]
    simp [Stmt.words]
  | global names =>
    obtain rfl := pure_eq_ok.mp h
    exact prints_line (by simpa (disch := decide) [Stmt.words] using names_holds names)
  | nonlocal names =>
    obtain rfl := pure_eq_ok.mp h
    exact prints_line (by simpa (disch := decide) [Stmt.words] using names_holds names)
  | expr value =>
    simp only [stmt, bind_eq_ok, pure_eq_ok] at h
    obtain ⟨v, hv, rfl⟩ := h
    exact prints_line (expr_holds value hv)
  | pass =>
    obtain rfl := pure_eq_ok.mp h
    exact prints_line (by simp (disch := decide) [Stmt.words])
  | stop =>
    obtain rfl := pure_eq_ok.mp h
    exact prints_line (by simp (disch := decide) [Stmt.words])
  | next =>
    obtain rfl := pure_eq_ok.mp h
    exact prints_line (by simp (disch := decide) [Stmt.words])

theorem stmts_print (ss : List Stmt) {depth : Nat} {t : String} (h : stmts depth ss = .ok t) :
    Prints t (wordsInBody ss) := by
  cases ss with
  | nil =>
    obtain rfl := pure_eq_ok.mp h
    exact prints_empty
  | cons s ss =>
    simp only [stmts, bind_eq_ok, pure_eq_ok] at h
    obtain ⟨a, ha, b, hb, rfl⟩ := h
    exact (stmt_prints s ha).append (stmts_print ss hb)

theorem documented_prints (ss : List Stmt) {depth : Nat} {t : String}
    (h : documented depth ss = .ok t) : Prints t (wordsInBody ss) := by
  cases ss with
  | nil =>
    obtain rfl := pure_eq_ok.mp h
    exact prints_empty
  | cons s ss =>
    obtain hplain | ⟨a, b, ha, hb, rfl⟩ := documented_cons h
    · simp only [stmts, bind_eq_ok, pure_eq_ok] at hplain
      obtain ⟨a, ha, b, hb, rfl⟩ := hplain
      exact (stmt_prints s ha).append (stmts_print ss hb)
    · exact ha.append (stmts_print ss hb)

theorem elsePart_prints (ss : List Stmt) {depth : Nat} {t : String}
    (h : elsePart depth ss = .ok t) : Prints t (wordsInBody ss) := by
  cases ss with
  | nil =>
    obtain rfl := pure_eq_ok.mp h
    exact prints_empty
  | cons s ss => exact prints_elsePart h (fun _ ha => stmt_prints s ha) fun _ hb => stmts_print ss hb

theorem elifPart_prints (ss : List Stmt) {depth : Nat} {t : String}
    (h : elifPart depth ss = .ok t) : Prints t (wordsInBody ss) := by
  cases ss with
  | nil =>
    obtain rfl := pure_eq_ok.mp h
    exact prints_empty
  | cons s ss =>
    obtain helse | ⟨a, rfl, ha, hprints⟩ := elifPart_cons h
    · exact prints_elsePart helse (fun _ ha => stmt_prints s ha) fun _ hb => stmts_print ss hb
    · exact (hprints (stmt_prints s ha)).congr (by simp [wordsInBody])

theorem cases_print (cs : List Case) {depth : Nat} {t : String} (h : cases depth cs = .ok t) :
    Prints t (wordsInCases cs) := by
  cases cs with
  | nil =>
    obtain rfl := pure_eq_ok.mp h
    exact prints_empty
  | cons c cs =>
    cases c with
    | mk p guard body =>
      simp only [cases, bind_eq_ok, pure_eq_ok] at h
      obtain ⟨s, hs, g, hg, b, hb, c, hc, rfl⟩ := h
      have hapart : Apart (g.toList ++ [':']) :=
        (apart_optional (by decide) hg).append (apart_cons rfl [])
      have hhead : Prints (line depth ("case " ++ s ++ g ++ ":")) (p.words ++ wordsInOption guard) :=
        prints_line (by
          simp (disch := decide) [holds_append hapart, pattern_holds p hs,
            plainOptional_holds guard (by decide) hg])
      exact (hhead.append (stmts_print body hb)).append (cases_print cs hc)

theorem handlers_print (hs : List Handler) {depth : Nat} {grouped : Bool} {t : String}
    (h : handlers depth grouped hs = .ok t) : Prints t (wordsInHandlers hs) := by
  cases hs with
  | nil =>
    obtain rfl := pure_eq_ok.mp h
    exact prints_empty
  | cons handler hs =>
    cases handler with
    | mk type name body =>
      simp only [handlers, bind_eq_ok, pure_eq_ok] at h
      obtain ⟨s, hs', b, hb, c, hc, rfl⟩ := h
      have hhead := handlerHead_holds grouped name type hs'
      exact ((prints_line hhead).append (stmts_print body hb)).append (handlers_print hs hc)

end

theorem holds_dropNewlines (s : String) : Holds (dropNewlines s).toList ↔ Holds s.toList := by
  rw [dropNewlines, String.toList_ofList]
  induction s.toList with
  | nil => rfl
  | cons c cs ih =>
    by_cases hc : c = '\n'
    · subst hc
      rw [List.dropWhile_cons_of_pos (by decide), ih, holds_cons_of_ne (by decide)]
    · rw [List.dropWhile_cons_of_neg (by simpa using hc)]

/-- A printed program holds a placeholder just when one of its words does. -/
theorem program_holds (p : Program) {s : String} (h : program p = .ok s) :
    Holds s.toList ↔ Holding p.words := by
  cases p with
  | module body =>
    simp only [program, bind_eq_ok, pure_eq_ok] at h
    obtain ⟨t, ht, rfl⟩ := h
    rw [holds_dropNewlines, (documented_prints body ht).holds_iff, Program.words]
  | interactive body =>
    simp only [program] at h
    cases hlast : body.getLast? with
    | none =>
      rw [hlast] at h
      obtain rfl := pure_eq_ok.mp h
      simp [Program.words, hlast, wordsInBody]
    | some last =>
      simp only [hlast, bind_eq_ok, pure_eq_ok] at h
      obtain ⟨t, ht, rfl⟩ := h
      rw [holds_dropNewlines, (stmt_prints last ht).holds_iff, Program.words, hlast]
      simp [wordsInBody]
  | expression e => exact plain_holds e h

end Conch.Code.Printer
