import Mathlib
import Conch.Proofs.Text.Pattern
import Conch.Screen.Highlight.Input

/-!
# Colouring leaves nothing out

An input that starts with a command is cut into tokens that stand one behind the other: every
character is in one of them, and each says where it stands. Colouring comes to an end, although there
is a rule that takes nothing: it only leaves the state for the name of a further command, which is
entered behind an operator, so that there are never more such steps than characters.
-/

namespace Conch.Screen

open Text Text.Pattern

/-- Tokens that stand one behind the other from an offset on and make up a text. -/
inductive Covers : Nat → List Char → List Token → Prop
  | nil (offset : Nat) : Covers offset [] []
  | cons {offset : Nat} {text rest : List Char} {tokens : List Token} (kind : Kind)
      (h : Covers (offset + text.length) rest tokens) :
      Covers offset (text ++ rest) (⟨offset, kind, text⟩ :: tokens)

namespace Covers

variable {offset : Nat} {text text' : List Char} {tokens tokens' : List Token}

theorem single (offset : Nat) (kind : Kind) (text : List Char) :
    Covers offset text [⟨offset, kind, text⟩] := by
  simpa using Covers.cons kind (.nil (offset + text.length))

theorem append (h : Covers offset text tokens)
    (h' : Covers (offset + text.length) text' tokens') :
    Covers offset (text ++ text') (tokens ++ tokens') := by
  induction h with
  | nil offset => simpa using h'
  | @cons offset first rest tokens kind _ ih =>
    rw [List.append_assoc, List.cons_append]
    refine .cons kind (ih ?_)
    rw [List.length_append, ← Nat.add_assoc] at h'
    exact h'

end Covers

/-- A token in a text that stands further on. -/
def Token.behind (start : Nat) (t : Token) : Token := { t with position := start + t.position }

namespace Covers

variable {offset : Nat} {text : List Char} {tokens : List Token}

theorem behind (h : Covers offset text tokens) (start : Nat) :
    Covers (start + offset) text (tokens.map (Token.behind start)) := by
  induction h with
  | nil offset => exact .nil _
  | cons kind _ ih =>
    rw [← Nat.add_assoc] at ih
    exact .cons kind ih

theorem flatMap_text (h : Covers offset text tokens) : tokens.flatMap Token.text = text := by
  induction h with
  | nil => rfl
  | cons kind _ ih => rw [List.flatMap_cons, ih]

/-- A token starts where those before it end. -/
theorem position_eq (h : Covers offset text tokens) {before after : List Token} {t : Token}
    (ht : tokens = before ++ t :: after) :
    t.position = offset + (before.map fun u => u.text.length).sum := by
  induction h generalizing before with
  | nil => simp at ht
  | cons kind _ ih =>
    cases before with
    | nil =>
      cases ht
      rfl
    | cons u before =>
      cases ht
      rw [ih rfl, List.map_cons, List.sum_cons, Nat.add_assoc]

end Covers

theorem Paint.covers {paint : Paint} (h : paint ≠ .nested) (inner : List Char → List Token)
    (keepsEmpty : Bool) (offset : Nat) (text : List Char) :
    Covers offset text (paint.tokens inner keepsEmpty offset text) := by
  cases paint with
  | plain kind =>
    rw [tokens]
    split
    next hempty =>
      obtain rfl : text = [] := by simp_all
      exact .nil offset
    next => exact .single offset kind text
  | chosen kindOf => exact .single offset (kindOf text) text
  | nested => exact absurd rfl h

theorem paintPieces_covers (inner : List Char → List Token) (keepsEmpty : Bool) {offset : Nat}
    {text : List Char} {paints : List Paint} (hpaints : ∀ p ∈ paints, p ≠ .nested) {ns : List Nat}
    (hlength : ns.length = paints.length) (hsum : ns.sum ≤ text.length) :
    Covers offset (text.take ns.sum) (paintPieces inner keepsEmpty offset text paints ns) := by
  induction paints generalizing ns offset text with
  | nil =>
    obtain rfl : ns = [] := by simpa using hlength
    exact .nil offset
  | cons paint paints ih =>
    obtain ⟨hpaint, hpaints⟩ := List.forall_mem_cons.mp hpaints
    cases ns with
    | nil => simp at hlength
    | cons n ns =>
      rw [List.sum_cons] at hsum
      rw [List.sum_cons, List.take_add, paintPieces]
      refine (Paint.covers hpaint inner keepsEmpty offset _).append ?_
      rw [List.length_take_of_le (by omega)]
      exact ih hpaints (by simpa using hlength) (by rw [List.length_drop]; omega)

section

variable {State : Type} {rules : List (Rule State)} {r : Rule State} {here : Place} {ns : List Nat}

theorem of_firstFit_eq_some (h : firstFit here rules = some (r, ns)) :
    r ∈ rules ∧ r.lengths? here = some ns := by
  induction rules with
  | nil => cases h
  | cons first rest ih =>
    rw [firstFit] at h
    split at h
    next hfits =>
      cases h
      exact ⟨List.mem_cons_self, hfits⟩
    next =>
      obtain ⟨hmem, hfits⟩ := ih h
      exact ⟨List.mem_cons_of_mem first hmem, hfits⟩

theorem lengths?_of_firstFit_eq_none (h : firstFit here rules = none) (hr : r ∈ rules) :
    r.lengths? here = none := by
  induction rules with
  | nil => cases hr
  | cons first rest ih =>
    rw [firstFit] at h
    split at h
    · cases h
    next hfirst =>
      rcases List.mem_cons.mp hr with rfl | hr
      · exact hfirst
      · exact ih h hr

/-- The fewest characters that a rule can take. -/
def Rule.fewest (r : Rule State) : Nat := ((r.pieces.map (·.1)).map Pattern.fewest).sum

theorem Rule.of_lengths?_eq_some (h : r.lengths? here = some ns) :
    ns.length = (r.pieces.map (·.2)).length ∧ r.fewest ≤ ns.sum ∧ ns.sum ≤ here.after.length := by
  obtain ⟨hlength, hfewest, hsum⟩ := of_lengths_eq_some h
  exact ⟨by simpa using hlength, hfewest, hsum⟩

end

/-- Colouring that comes to its end: from a stack of states and a place on, the first rule that fits
is followed, a character that no rule fits is an error or a line feed, and the end of the text is the
end where no rule fits. -/
inductive Painting {State : Type} (rules : State → List (Rule State)) (ground : State)
    (inner : List Char → List Token) : List State → Place → List Token → Prop
  | fits {stack : List State} {here : Place} {r : Rule State} {ns : List Nat} {tokens : List Token}
      (hfit : firstFit here (rules (stack.headD ground)) = some (r, ns))
      (hrest : Painting rules ground inner (r.move.apply stack) (here.advance ns.sum) tokens) :
      Painting rules ground inner stack here
        (paintPieces inner r.keepsEmpty here.offset here.after (r.pieces.map (·.2)) ns ++ tokens)
  | lineFeed {stack : List State} {here : Place} {rest : List Char} {tokens : List Token}
      (hfit : firstFit here (rules (stack.headD ground)) = none) (hafter : here.after = '\n' :: rest)
      (hrest : Painting rules ground inner [ground] (here.advance 1) tokens) :
      Painting rules ground inner stack here (⟨here.offset, .whitespace, ['\n']⟩ :: tokens)
  | error {stack : List State} {here : Place} {c : Char} {rest : List Char} {tokens : List Token}
      (hfit : firstFit here (rules (stack.headD ground)) = none) (hafter : here.after = c :: rest)
      (hc : c ≠ '\n') (hrest : Painting rules ground inner stack (here.advance 1) tokens) :
      Painting rules ground inner stack here (⟨here.offset, .error, [c]⟩ :: tokens)
  | done {stack : List State} {here : Place}
      (hfit : firstFit here (rules (stack.headD ground)) = none) (hafter : here.after = []) :
      Painting rules ground inner stack here []

theorem paintFrom_succ {State : Type} (rules : State → List (Rule State)) (ground : State)
    (inner : List Char → List Token) (steps : Nat) (stack : List State) (here : Place) :
    paintFrom rules ground inner (steps + 1) stack here =
      match firstFit here (rules (stack.headD ground)) with
      | some (r, ns) =>
        paintPieces inner r.keepsEmpty here.offset here.after (r.pieces.map (·.2)) ns ++
          paintFrom rules ground inner steps (r.move.apply stack) (here.advance ns.sum)
      | none =>
        match here.after with
        | [] => []
        | c :: _ =>
          if c = '\n' then
            ⟨here.offset, .whitespace, [c]⟩ ::
              paintFrom rules ground inner steps [ground] (here.advance 1)
          else
            ⟨here.offset, .error, [c]⟩ :: paintFrom rules ground inner steps stack (here.advance 1) :=
  rfl

theorem of_mem_commandRules {known : Knowledge} {r : Rule State} (h : r ∈ commandRules known) :
    (∀ p ∈ r.pieces.map (·.2), p ≠ .nested) ∧ 1 ≤ r.fewest ∧
      (r.move = .stay ∨ r.move = .push .commandStart) := by
  simp only [commandRules, List.mem_cons, List.not_mem_nil, or_false] at h
  rcases h with rfl | rfl | rfl | rfl | rfl | rfl | rfl | rfl | rfl | rfl <;>
    exact ⟨by simp [Rule.whole, Rule.plain, variableRule], Nat.le_of_ble_eq_true rfl,
      by simp [Rule.whole, Rule.plain, variableRule]⟩

theorem of_mem_commandStartRules {known : Knowledge} {r : Rule State}
    (h : r ∈ commandStartRules known) :
    (∀ p ∈ r.pieces.map (·.2), p ≠ .nested) ∧ (1 ≤ r.fewest ∧ r.move = .stay ∨ r.move = .pop) := by
  simp only [commandStartRules, List.mem_cons, List.not_mem_nil, or_false] at h
  rcases h with rfl | rfl | rfl
  · exact ⟨by simp [Rule.whole, Rule.plain], .inl ⟨by decide, rfl⟩⟩
  · exact ⟨by simp, .inr rfl⟩
  · exact ⟨by simp [Rule.whole], .inr rfl⟩

/-- Blanks are known behind the name of a command. -/
theorem firstFit_commandRules_ne_none (known : Knowledge) {here : Place} {c : Char}
    {rest : List Char} (hafter : here.after = c :: rest) (hc : isBlank c = true) :
    firstFit here (commandRules known) ≠ none := by
  intro hnone
  have hmem : Rule.plain (oneOrMore blank) .text ∈ commandRules known := by simp [commandRules]
  have hnot : lengths [oneOrMore blank] here = none := lengths?_of_firstFit_eq_none hnone hmem
  have hfits : (lengths [oneOrMore blank] here).isSome = true :=
    walk_oneOrMore_isSome hafter hc fun _ => rfl
  rw [hnot] at hfits
  cases hfits

theorem firstFit_commandStartRules_ne_none (known : Knowledge) (here : Place) :
    firstFit here (commandStartRules known) ≠ none := by
  intro hnone
  have hmem : Rule.whole nothing .whitespace .pop ∈ commandStartRules known := by
    simp [commandStartRules]
  have hnot := lengths?_of_firstFit_eq_none hnone hmem
  cases hnot

/-- The stacks within a command, with the number of states that can be left without taking a
character. -/
inductive CommandStack : List State → Nat → Prop
  | within : CommandStack [.command] 0
  | starting : CommandStack [.commandStart, .command] 1

namespace CommandStack

variable {known : Knowledge} {stack : List State} {k : Nat} {here : Place}

/-- A rule that fits takes characters or leaves a state, and leads to such a stack again. -/
theorem of_fit (h : CommandStack stack k) {r : Rule State} {ns : List Nat}
    (hfit : firstFit here (State.rules known (stack.headD .code)) = some (r, ns)) :
    (∀ p ∈ r.pieces.map (·.2), p ≠ .nested) ∧
      ∃ k', CommandStack (r.move.apply stack) k' ∧ k' < k + 2 * ns.sum := by
  obtain ⟨hmem, hfits⟩ := of_firstFit_eq_some hfit
  obtain ⟨-, htakes, -⟩ := Rule.of_lengths?_eq_some hfits
  cases h with
  | within =>
    obtain ⟨hplain, hfewest, hmove⟩ := of_mem_commandRules hmem
    refine ⟨hplain, ?_⟩
    rcases hmove with hmove | hmove <;> rw [hmove]
    · exact ⟨0, .within, by omega⟩
    · exact ⟨1, .starting, by omega⟩
  | starting =>
    obtain ⟨hplain, ⟨hfewest, hmove⟩ | hmove⟩ := of_mem_commandStartRules hmem <;>
      refine ⟨hplain, ?_⟩ <;> rw [hmove]
    · exact ⟨1, .starting, by omega⟩
    · exact ⟨0, .within, by omega⟩

/-- A line feed is a blank, so it never leads out of a command. -/
theorem ne_lineFeed (h : CommandStack stack k)
    (hfit : firstFit here (State.rules known (stack.headD .code)) = none) {c : Char}
    {rest : List Char} (hafter : here.after = c :: rest) : c ≠ '\n' := by
  rintro rfl
  cases h with
  | within => exact firstFit_commandRules_ne_none known hafter (by decide) hfit
  | starting => exact firstFit_commandStartRules_ne_none known here hfit

-- Every step makes `2 * here.after.length + k` smaller, and one more step finds the end.
variable (known) in
theorem painting (h : CommandStack stack k) (inner : List Char → List Token) {steps : Nat}
    (hsteps : 2 * here.after.length + k < steps) :
    Painting (State.rules known) .code inner stack here
        (paintFrom (State.rules known) .code inner steps stack here) ∧
      Covers here.offset here.after
        (paintFrom (State.rules known) .code inner steps stack here) := by
  induction steps generalizing stack k here with
  | zero => omega
  | succ steps ih =>
    rw [paintFrom_succ]
    cases hfit : firstFit here (State.rules known (stack.headD .code)) with
    | some fit =>
      obtain ⟨r, ns⟩ := fit
      obtain ⟨hlength, -, hsum⟩ := Rule.of_lengths?_eq_some (of_firstFit_eq_some hfit).2
      obtain ⟨hplain, k', hstack, hless⟩ := h.of_fit hfit
      have henough : 2 * (here.advance ns.sum).after.length + k' < steps := by
        rw [Place.after_advance, List.length_drop]
        omega
      obtain ⟨hpainting, hcovers⟩ := ih hstack henough
      refine ⟨.fits hfit hpainting, ?_⟩
      rw [← List.take_append_drop ns.sum here.after]
      refine .append ?_ ?_
      · rw [List.take_append_drop]
        exact paintPieces_covers inner r.keepsEmpty hplain hlength hsum
      · rw [List.length_take_of_le hsum]
        exact hcovers
    | none =>
      cases hafter : here.after with
      | nil => exact ⟨.done hfit hafter, .nil _⟩
      | cons c rest =>
        have hc : c ≠ '\n' := h.ne_lineFeed hfit hafter
        have henough : 2 * (here.advance 1).after.length + k < steps := by
          rw [hafter] at hsteps
          simp only [Place.after_advance, hafter, List.drop_succ_cons, List.drop_zero,
            List.length_cons] at hsteps ⊢
          omega
        obtain ⟨hpainting, hcovers⟩ := ih h henough
        simp only [if_neg hc]
        refine ⟨.error hfit hafter hc hpainting, ?_⟩
        rw [Place.after_advance, hafter] at hcovers
        exact (Covers.single here.offset .error [c]).append hcovers

end CommandStack

theorem painting_command (known : Knowledge) (inner : List Char → List Token) (text : List Char) :
    Painting (State.rules known) .code inner [.command] (.start text)
        (paintText (State.rules known) .code inner .command text) ∧
      Covers 0 text (paintText (State.rules known) .code inner .command text) :=
  CommandStack.within.painting known inner (by simp [Place.start])

/-- An input whose first word is the name of a command: blanks, the name, and behind it nothing, a
blank, a closing bracket or `!`. -/
structure Leads (blanks name rest : List Char) : Prop where
  blanks : ∀ c ∈ blanks, isBlank c = true
  named : name ≠ []
  name : ∀ c ∈ name, endsCommand c = false
  rest : ∀ c ∈ rest.head?, isBlank c = true ∨ c ∈ [')', ']', '}', '!']

theorem isBlank_of_endsCommand {c : Char} (h : endsCommand c = false) : isBlank c = false := by
  unfold endsCommand at h
  exact (Bool.or_eq_false_iff.mp h).1

/-- The name of a command is taken to its end. -/
theorem walk_commandName {name rest : List Char} {here : Place} {next : Next} {ns : List Nat}
    (hafter : here.after = name ++ rest) (hnamed : name ≠ [])
    (hname : ∀ c ∈ name, endsCommand c = false)
    (hrest : ∀ c ∈ rest.head?, isBlank c = true ∨ c ∈ [')', ']', '}', '!'])
    (hnext : next (here.advance name.length) = some ns) : commandName.walk here next = some ns := by
  obtain ⟨c, name, rfl⟩ := List.exists_cons_of_ne_nil hnamed
  obtain ⟨hc, hname⟩ := List.forall_mem_cons.mp hname
  have hend : ∀ d ∈ rest.head?, endsCommand d = true := by
    intro d hd
    rcases hrest d hd with hblank | hclosing
    · simp [endsCommand, hblank]
    · simp only [List.mem_cons, List.not_mem_nil, or_false] at hclosing
      rcases hclosing with rfl | rfl | rfl | rfl <;> decide
  rw [commandName, walk, oneOrMore, walk, walk]
  rw [List.cons_append] at hafter
  simp only [hafter, hc, Bool.not_false, if_true]
  rw [← Place.advance_one hafter]
  have hbehind : (here.advance 1).after = name ++ rest := by simp [hafter]
  refine walk_many_one hbehind ?_ ?_ ?_
  · intro d hd
    rw [hname d hd, Bool.not_false]
  · intro d hd
    rw [hend d hd, Bool.not_true]
  · have hlast : (here.advance (name.length + 1)).after = rest := by simp [hafter]
    rw [Place.advance_advance, Nat.add_comm, walk, hlast, if_pos]
    · exact hnext
    · cases hhead : rest.head? with
      | none => rfl
      | some d => simpa using hrest d hhead

theorem Leads.lengths_eq {blanks name rest : List Char} (h : Leads blanks name rest) :
    lengths [many blank, commandName] (.start (blanks ++ name ++ rest)) =
      some [blanks.length, name.length] := by
  have hstart : (Place.start (blanks ++ name ++ rest)).after = blanks ++ (name ++ rest) := by
    rw [Place.start, List.append_assoc]
  have hbehind : ((Place.start (blanks ++ name ++ rest)).advance blanks.length).after =
      name ++ rest := by
    rw [Place.after_advance, hstart, List.drop_left]
  rw [lengths]
  refine walk_many_one hstart h.blanks ?_ ?_
  · obtain ⟨c, name', hname'⟩ := List.exists_cons_of_ne_nil h.named
    intro d hd
    obtain rfl : c = d := by simpa [hname'] using hd
    exact isBlank_of_endsCommand (h.name c (by simp [hname']))
  · rw [lengths, walk_commandName hbehind h.named h.name h.rest rfl]
    simp [Place.start]

theorem Leads.highlight_eq {blanks name rest : List Char} (h : Leads blanks name rest)
    {known : Knowledge} (hknown : known.isCommand name = true) :
    highlight known (blanks ++ name ++ rest) =
      ⟨0, .whitespace, blanks⟩ :: ⟨blanks.length, .builtin, name⟩ ::
        (paintText (State.rules known) .code (highlightTo known (blanks ++ name ++ rest).length)
          .command rest).map (Token.behind (blanks.length + name.length)) := by
  have hblanks : (blanks ++ name ++ rest).take blanks.length = blanks := by
    rw [List.append_assoc, List.take_left]
  have hname : ((blanks ++ name ++ rest).drop blanks.length).take name.length = name := by
    rw [List.append_assoc, List.drop_left, List.take_left]
  have hrest : (blanks ++ name ++ rest).drop (blanks.length + name.length) = rest := by
    rw [← List.length_append, List.drop_left]
  rw [highlight, highlightTo, h.lengths_eq]
  simp only [hblanks, hname, hrest, hknown, if_true]
  rfl

/-- An input that starts with a command is coloured to its end by the rules for commands, whatever is
known about the other words. The tokens make up the input, and each of them stands where those before
it end. -/
theorem highlight_covers_command (known : Knowledge) {blanks name rest : List Char}
    (h : Leads blanks name rest) (hknown : known.isCommand name = true) :
    ∃ tokens,
      Painting (State.rules known) .code (highlightTo known (blanks ++ name ++ rest).length)
        [.command] (.start rest) tokens ∧
      highlight known (blanks ++ name ++ rest) =
        ⟨0, .whitespace, blanks⟩ :: ⟨blanks.length, .builtin, name⟩ ::
          tokens.map (Token.behind (blanks.length + name.length)) ∧
      (highlight known (blanks ++ name ++ rest)).flatMap Token.text = blanks ++ name ++ rest ∧
      ∀ before t after, highlight known (blanks ++ name ++ rest) = before ++ t :: after →
        t.position = (before.map fun u => u.text.length).sum := by
  obtain ⟨hpainting, hcovers⟩ :=
    painting_command known (highlightTo known (blanks ++ name ++ rest).length) rest
  have hall : Covers 0 (blanks ++ name ++ rest) (highlight known (blanks ++ name ++ rest)) := by
    have hname := Covers.cons .builtin (hcovers.behind (blanks.length + name.length))
    rw [← Nat.zero_add blanks.length] at hname
    have hblanks := Covers.cons .whitespace hname
    rw [← List.append_assoc, Nat.zero_add] at hblanks
    rw [h.highlight_eq hknown]
    exact hblanks
  refine ⟨_, hpainting, h.highlight_eq hknown, hall.flatMap_text, fun before t after ht => ?_⟩
  rw [hall.position_eq ht, Nat.zero_add]

/-- A single program is known, and no path. -/
def knowsListing : Knowledge := ⟨fun s => s == ['l', 's'], fun _ => false⟩

/-- An open string, a bracket and an operator with nothing behind it are covered too. -/
theorem highlight_covers_unfinished :
    Leads [' '] ['l', 's'] " \"[a\n&&".toList ∧ knowsListing.isCommand ['l', 's'] = true ∧
      (highlight knowsListing " ls \"[a\n&&".toList).flatMap Token.text = " ls \"[a\n&&".toList := by
  have hleads : Leads [' '] ['l', 's'] " \"[a\n&&".toList :=
    { blanks := by simp [isBlank]
      named := by simp
      name := by
        simp only [List.mem_cons, List.not_mem_nil, or_false]
        rintro c (rfl | rfl) <;> decide
      rest := by
        intro c hc
        obtain rfl : ' ' = c := by simpa using hc
        exact .inl rfl }
  obtain ⟨tokens, -, -, htexts, -⟩ := highlight_covers_command knowsListing hleads rfl
  exact ⟨hleads, rfl, htexts⟩

end Conch.Screen
