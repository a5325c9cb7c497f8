import Mathlib
import Conch.Line.Stage

/-!
# Pipelines written and read back

A pipeline is written with its words in quotes and `|` between its stages. Reading takes the quotes
off and only then looks for `|` and for redirections, so a word that is one of those operators is
taken for it, quotes or not. All other words come back as they were.
-/

namespace Conch.Line

/-- A character that needs no quotes has no meaning of its own to the reader. -/
theorem plain_of_isSafe {c : Char} (h : isSafe c = true) :
    isGap c = false ∧ c ≠ '\\' ∧ c ≠ '\'' ∧ c ≠ '"' := by
  have hne (d : Char) (hd : isSafe d = false) : c ≠ d := by
    rintro rfl
    rw [h] at hd
    cases hd
  refine ⟨?_, hne '\\' (by decide), hne '\'' (by decide), hne '"' (by decide)⟩
  simp [isGap, hne ' ' (by decide), hne '\t' (by decide), hne '\r' (by decide),
    hne '\n' (by decide)]

theorem readWords_plain {s : List Char}
    (h : ∀ c ∈ s, isGap c = false ∧ c ≠ '\\' ∧ c ≠ '\'' ∧ c ≠ '"') (word rest : List Char) :
    readWords .word word (s ++ rest) = readWords .word (s.reverse ++ word) rest := by
  induction s generalizing word with
  | nil => rfl
  | cons c s ih =>
    obtain ⟨hgap, hescape, hsingle, hdouble⟩ := h c List.mem_cons_self
    have hread : readWords .word word (c :: (s ++ rest)) = readWords .word (c :: word) (s ++ rest) := by
      simp [readWords, hgap, hescape, hsingle, hdouble]
    rw [List.cons_append, hread, ih fun d hd => h d (List.mem_cons_of_mem c hd)]
    simp

theorem readWords_safe {s : List Char} (h : ∀ c ∈ s, isSafe c = true) (word rest : List Char) :
    readWords .word word (s ++ rest) = readWords .word (s.reverse ++ word) rest :=
  readWords_plain (fun c hc => plain_of_isSafe (h c hc)) word rest

/-- What is written for the characters of a word between single quotes. -/
def escapeQuotes (s : List Char) : List Char :=
  s.flatMap fun c => if c = '\'' then ['\'', '"', '\'', '"', '\''] else [c]

/-- A single quote closes the quotes, comes in double ones, and opens them again. -/
theorem readWords_escapeQuotes (s word rest : List Char) :
    readWords (.quoted false) word (escapeQuotes s ++ '\'' :: rest) =
      readWords .word (s.reverse ++ word) rest := by
  induction s generalizing word with
  | nil => simp [escapeQuotes, readWords]
  | cons c s ih =>
    have hcons : escapeQuotes (c :: s) =
        (if c = '\'' then ['\'', '"', '\'', '"', '\''] else [c]) ++ escapeQuotes s := rfl
    have hread : readWords (.quoted false) word (escapeQuotes (c :: s) ++ '\'' :: rest) =
        readWords (.quoted false) (c :: word) (escapeQuotes s ++ '\'' :: rest) := by
      rw [hcons]
      by_cases hc : c = '\''
      · subst hc
        simp [readWords, isGap]
      · simp [readWords, hc]
    rw [hread, ih]
    simp

/-- A written word is read as the word, whatever it holds. -/
theorem readWords_quoteWord (w word rest : List Char) :
    readWords .gap word (quoteWord w ++ rest) = readWords .word w.reverse rest := by
  unfold quoteWord
  split
  next hempty =>
    obtain rfl : w = [] := List.isEmpty_iff.mp hempty
    simp [readWords, isGap]
  next hne =>
    split
    next hsafe =>
      obtain ⟨c, s, rfl⟩ := List.exists_cons_of_ne_nil (by simpa using hne : w ≠ [])
      rw [List.all_eq_true] at hsafe
      obtain ⟨hgap, hescape, hsingle, hdouble⟩ := plain_of_isSafe (hsafe c List.mem_cons_self)
      have hread : readWords .gap word (c :: (s ++ rest)) = readWords .word [c] (s ++ rest) := by
        simp [readWords, hgap, hescape, hsingle, hdouble]
      rw [List.cons_append, hread, readWords_safe fun d hd => hsafe d (List.mem_cons_of_mem c hd)]
      simp
    next =>
      have hopen : readWords .gap word ('\'' :: (escapeQuotes w ++ '\'' :: rest)) =
          readWords (.quoted false) [] (escapeQuotes w ++ '\'' :: rest) := by
        simp [readWords, isGap]
      have hclose := readWords_escapeQuotes w [] rest
      rw [List.append_nil] at hclose
      rw [← hclose, ← hopen]
      simp [escapeQuotes]

/-- Words in quotes with a blank between them. -/
def spaced (ws : List (List Char)) : List Char := [' '].intercalate (ws.map quoteWord)

theorem spaced_cons_cons (w v : List Char) (ws : List (List Char)) :
    spaced (w :: v :: ws) = quoteWord w ++ ' ' :: spaced (v :: ws) := by
  simp [spaced]

theorem readWords_spaced (ws : List (List Char)) : readWords .gap [] (spaced ws) = .ok ws := by
  induction ws with
  | nil => rfl
  | cons w ws ih =>
    cases ws with
    | nil =>
      have hread := readWords_quoteWord w [] []
      simpa [spaced, readWords] using hread
    | cons v ws =>
      rw [spaced_cons_cons, readWords_quoteWord, readWords_word_blank, ih, List.reverse_reverse]
      rfl

theorem readWords_spaced_append {ws : List (List Char)} (h : ws ≠ []) (rest : List Char) :
    readWords .gap [] (spaced ws ++ ' ' :: rest) = (readWords .gap [] rest).map (ws ++ ·) := by
  induction ws with
  | nil => exact absurd rfl h
  | cons w ws ih =>
    cases ws with
    | nil =>
      have hword : spaced [w] = quoteWord w := by simp [spaced]
      rw [hword, readWords_quoteWord, readWords_word_blank, List.reverse_reverse]
      rfl
    | cons v ws =>
      rw [spaced_cons_cons, List.append_assoc, List.cons_append, readWords_quoteWord,
        readWords_word_blank, ih (by simp), List.reverse_reverse]
      cases readWords .gap [] rest <;> rfl

/-- The words of a pipeline with `|` between its stages. -/
theorem readWords_stages {stages : List (List (List Char))} (h : [] ∉ stages) :
    readWords .gap [] ([' ', '|', ' '].intercalate (stages.map spaced)) =
      .ok ([['|']].intercalate stages) := by
  induction stages with
  | nil => rfl
  | cons ws stages ih =>
    rw [List.mem_cons, not_or] at h
    cases stages with
    | nil => simpa using readWords_spaced ws
    | cons vs stages =>
      have hbar (rest : List Char) : readWords .gap [] ('|' :: ' ' :: rest) =
          (readWords .gap [] rest).map (['|'] :: ·) := by
        simp [readWords, isGap]
      have htail := ih h.2
      simp only [List.map_cons, List.intercalate_cons_cons, List.append_assoc, List.cons_append,
        List.nil_append] at htail ⊢
      rw [readWords_spaced_append (Ne.symm h.1), hbar, htail]
      rfl

theorem splitStagesFrom_append {ws : List String} (h : "|" ∉ ws) (stage rest : List String) :
    splitStagesFrom stage (ws ++ rest) = splitStagesFrom (ws.reverse ++ stage) rest := by
  induction ws generalizing stage with
  | nil => rfl
  | cons w ws ih =>
    rw [List.mem_cons, not_or] at h
    rw [List.cons_append, splitStagesFrom, if_neg (Ne.symm h.1), ih h.2]
    simp

theorem splitStages_intercalate {stages : List (List String)} (h : [] ∉ stages)
    (hbar : ∀ ws ∈ stages, "|" ∉ ws) : splitStages (["|"].intercalate stages) = stages := by
  induction stages with
  | nil => rfl
  | cons ws stages ih =>
    rw [List.mem_cons, not_or] at h
    rw [List.forall_mem_cons] at hbar
    have hne : ¬(ws.reverse ++ []).isEmpty = true := by simpa using Ne.symm h.1
    cases stages with
    | nil =>
      have hread := splitStagesFrom_append hbar.1 [] []
      rw [List.append_nil, splitStagesFrom, if_neg hne] at hread
      simpa [splitStages] using hread
    | cons vs stages =>
      have htail := ih h.2 hbar.2
      rw [List.intercalate_cons_cons, splitStages, List.append_assoc, splitStagesFrom_append hbar.1,
        List.singleton_append, splitStagesFrom, if_pos rfl, if_neg hne]
      rw [splitStages] at htail
      rw [htail]
      simp

theorem bar_not_mem_of_mem_splitStagesFrom {stage words ws : List String} (h : "|" ∉ stage)
    (hws : ws ∈ splitStagesFrom stage words) : "|" ∉ ws := by
  induction words generalizing stage with
  | nil =>
    rw [splitStagesFrom] at hws
    split at hws
    · simp at hws
    · rw [List.mem_singleton.mp hws, List.mem_reverse]
      exact h
  | cons w words ih =>
    rw [splitStagesFrom] at hws
    split at hws
    next =>
      split at hws
      · exact ih (by simp) hws
      · rcases List.mem_cons.mp hws with rfl | hws
        · rwa [List.mem_reverse]
        · exact ih (by simp) hws
    next hw =>
      refine ih ?_ hws
      rw [List.mem_cons, not_or]
      exact ⟨Ne.symm hw, h⟩

/-- A stage without redirections is its words. -/
theorem ofWords_of_plain {ws : List String} (h : ∀ w ∈ ws, RedirectOperator.ofWord? w = none) :
    Stage.ofWords ws = ⟨ws, [], []⟩ := by
  fun_induction Stage.ofWords ws with
  | case1 => rfl
  | case2 w hw => simp [h w List.mem_cons_self] at hw
  | case3 w hw => rfl
  | case4 w path rest op hop => simp [h w List.mem_cons_self] at hop
  | case5 w path rest op hop => simp [h w List.mem_cons_self] at hop
  | case6 w path rest hop s ih =>
    have hs : s = ⟨path :: rest, [], []⟩ := ih fun v hv => h v (List.mem_cons_of_mem w hv)
    rw [hs]

/-- The words of a stage are words that it was made from, and none is a redirection. -/
theorem mem_words_ofWords {ws : List String} {w : String} (h : w ∈ (Stage.ofWords ws).words) :
    w ∈ ws ∧ RedirectOperator.ofWord? w = none := by
  fun_induction Stage.ofWords ws with
  | case1 => simp at h
  | case2 v hv => simp at h
  | case3 v hv =>
    obtain rfl : w = v := by simpa using h
    exact ⟨List.mem_cons_self, by simpa using hv⟩
  | case4 v path rest op hop s hto ih =>
    exact ⟨by simp [(ih h).1], (ih h).2⟩
  | case5 v path rest op hop s hto ih =>
    exact ⟨by simp [(ih h).1], (ih h).2⟩
  | case6 v path rest hop s ih =>
    rcases List.mem_cons.mp h with rfl | h
    · exact ⟨List.mem_cons_self, hop⟩
    · exact ⟨List.mem_cons_of_mem v (ih h).1, (ih h).2⟩

/-- The words that the reader of a pipeline takes for operators. -/
def operatorWords : List String := ["|", ">", "1>", ">>", "1>>", "2>", "2>>"]

theorem not_mem_operatorWords_iff {w : String} :
    w ∉ operatorWords ↔ w ≠ "|" ∧ RedirectOperator.ofWord? w = none := by
  simp only [operatorWords, List.mem_cons, List.not_mem_nil, or_false, not_or,
    RedirectOperator.ofWord?]
  grind

theorem quoteWord_ne_nil (w : List Char) : quoteWord w ≠ [] := by
  unfold quoteWord
  split
  · simp
  next hne =>
    split
    · simpa using hne
    · simp

theorem spaced_ne_nil {ws : List (List Char)} (h : ws ≠ []) : spaced ws ≠ [] := by
  obtain ⟨w, ws, rfl⟩ := List.exists_cons_of_ne_nil h
  cases ws with
  | nil => simpa [spaced] using quoteWord_ne_nil w
  | cons v ws => simp [spaced_cons_cons]

/-- The text of a stage. -/
def stageText (ws : List String) : String :=
  " ".intercalate (ws.map fun w => String.ofList (quoteWord w.toList))

theorem toList_stageText (ws : List String) :
    (stageText ws).toList = spaced (ws.map String.toList) := by
  have hquoted : (String.toList ∘ fun w : String => String.ofList (quoteWord w.toList)) =
      quoteWord ∘ String.toList := by
    funext w
    simp
  rw [stageText, String.toList_intercalate, List.map_map, hquoted, spaced, List.map_map]
  rfl

theorem toList_render {stages : List (List String)} (h : [] ∉ stages) :
    (render stages).toList =
      [' ', '|', ' '].intercalate ((stages.map (List.map String.toList)).map spaced) := by
  have hfull : (stages.map stageText).filter (fun s => !s.isEmpty) = stages.map stageText := by
    refine List.filter_eq_self.mpr fun s hs => ?_
    obtain ⟨ws, hws, rfl⟩ := List.mem_map.mp hs
    have hne : ws.map String.toList ≠ [] := by
      rw [Ne, List.map_eq_nil_iff]
      rintro rfl
      exact h hws
    have htext : (stageText ws).toList ≠ [] := by
      rw [toList_stageText]
      exact spaced_ne_nil hne
    simpa using htext
  have hrender : render stages =
      " | ".intercalate ((stages.map stageText).filter fun s => !s.isEmpty) := rfl
  have hstages : String.toList ∘ stageText = spaced ∘ List.map String.toList :=
    funext toList_stageText
  rw [hrender, hfull, String.toList_intercalate, List.map_map, hstages, List.map_map]
  rfl

theorem mem_quoteWord_iff {c : Char} (h : c ∉ ['\'', '"', ' ', '|']) {w : List Char} :
    c ∈ quoteWord w ↔ c ∈ w := by
  simp only [List.mem_cons, List.not_mem_nil, or_false, not_or] at h
  unfold quoteWord
  split
  · next hempty =>
    obtain rfl := List.isEmpty_iff.mp hempty
    simp [h]
  · split
    · rfl
    · simp only [List.mem_cons, List.mem_append, List.mem_flatMap, h, false_or, List.not_mem_nil,
        or_false]
      constructor
      · rintro ⟨d, hd, hc⟩
        split at hc
        · simp [h] at hc
        · rwa [List.mem_singleton.mp hc]
      · exact fun hc => ⟨c, hc, by simp [h]⟩

theorem mem_intercalate_iff {c : Char} {sep : List Char} (h : c ∉ sep) {parts : List (List Char)} :
    c ∈ sep.intercalate parts ↔ ∃ part ∈ parts, c ∈ part := by
  induction parts with
  | nil => simp
  | cons part parts ih =>
    cases parts with
    | nil => simp
    | cons part' parts =>
      rw [List.intercalate_cons_cons, List.mem_append, List.mem_append, ih]
      simp [h]

/-- A character that is no quote, blank or bar is in the text of a pipeline just if it is in one of
its words. -/
theorem mem_render_iff {stages : List (List String)} (h : [] ∉ stages) {c : Char}
    (hc : c ∉ ['\'', '"', ' ', '|']) :
    c ∈ (render stages).toList ↔ ∃ ws ∈ stages, ∃ w ∈ ws, c ∈ w.toList := by
  have hsep : c ∉ [' ', '|', ' '] ∧ c ∉ [' '] := by simp_all
  simp only [toList_render h, mem_intercalate_iff hsep.1, spaced, mem_intercalate_iff hsep.2,
    List.mem_map, exists_exists_and_eq_and, mem_quoteWord_iff hc]

theorem render_ne_empty {stages : List (List String)} (hne : stages ≠ []) (h : [] ∉ stages) :
    render stages ≠ "" := by
  intro hempty
  have hlist := toList_render h
  obtain ⟨ws, stages, rfl⟩ := List.exists_cons_of_ne_nil hne
  have hws : ws.map String.toList ≠ [] := by
    rw [Ne, List.map_eq_nil_iff]
    rintro rfl
    exact h List.mem_cons_self
  have hspaced := spaced_ne_nil hws
  cases stages <;> simp_all [List.intercalate_cons_cons]

theorem map_ofList_intercalate (stages : List (List String)) :
    ([['|']].intercalate (stages.map (List.map String.toList))).map String.ofList =
      ["|"].intercalate stages := by
  induction stages with
  | nil => rfl
  | cons ws stages ih =>
    have hws : (ws.map String.toList).map String.ofList = ws := by simp
    cases stages with
    | nil => simp
    | cons vs stages =>
      simp only [List.map_cons, List.intercalate_cons_cons, List.map_append, hws] at ih ⊢
      rw [ih]
      rfl

/-- The words of a written pipeline are those of its stages, with `|` between them. -/
theorem pipeline_render {stages : List (List String)} (h : [] ∉ stages) :
    pipeline (render stages) = pipelineOfWords (["|"].intercalate stages) := by
  have hchars : [] ∉ stages.map (List.map String.toList) := by
    simpa [List.mem_map] using h
  have hwords : commandWords (render stages).toList =
      [['|']].intercalate (stages.map (List.map String.toList)) := by
    rw [commandWords, quotedWords, toList_render h, readWords_stages hchars]
  rw [pipeline, hwords, map_ofList_intercalate]

/-- No word of a stage that was read is an operator. -/
theorem not_mem_operatorWords_of_mem {words : List String} {s : Stage}
    (hs : s ∈ pipelineOfWords words) {w : String} (hw : w ∈ s.words) : w ∉ operatorWords := by
  obtain ⟨ws, hws, rfl⟩ := List.mem_map.mp hs
  obtain ⟨hmem, hredirect⟩ := mem_words_ofWords hw
  have hbar : "|" ∉ ws := bar_not_mem_of_mem_splitStagesFrom (by simp) hws
  refine not_mem_operatorWords_iff.mpr ⟨?_, hredirect⟩
  rintro rfl
  exact hbar hmem

/-- A pipeline comes back from its text, stage by stage and without redirections, just when none of
its words is an operator. -/
theorem pipeline_render_eq_iff {stages : List (List String)} (h : [] ∉ stages) :
    pipeline (render stages) = stages.map (fun ws => ⟨ws, [], []⟩) ↔
      ∀ ws ∈ stages, ∀ w ∈ ws, w ∉ operatorWords := by
  rw [pipeline_render h]
  constructor
  · intro heq ws hws w hw
    have hs : (⟨ws, [], []⟩ : Stage) ∈ pipelineOfWords (["|"].intercalate stages) := by
      rw [heq]
      exact List.mem_map_of_mem hws
    exact not_mem_operatorWords_of_mem hs hw
  · intro hplain
    have hbar : ∀ ws ∈ stages, "|" ∉ ws := fun ws hws hmem =>
      (not_mem_operatorWords_iff.mp (hplain ws hws "|" hmem)).1 rfl
    have hstage (ws : List String) (hws : ws ∈ stages) : Stage.ofWords ws = ⟨ws, [], []⟩ :=
      ofWords_of_plain fun w hw => (not_mem_operatorWords_iff.mp (hplain ws hws w hw)).2
    rw [pipelineOfWords, splitStages_intercalate h hbar]
    exact List.map_congr_left hstage

/-- Empty words, quotes, blanks and line feeds come back; a redirection that was quoted does not. -/
theorem pipeline_render_eq_iff_quotes :
    pipeline (render [["echo", "it's", "", "a \"b\"\n"], ["grep", "\\ é"]]) =
        [⟨["echo", "it's", "", "a \"b\"\n"], [], []⟩, ⟨["grep", "\\ é"], [], []⟩] ∧
      pipeline (render [["echo", "2>>"]]) ≠ [⟨["echo", "2>>"], [], []⟩] :=
  ⟨(pipeline_render_eq_iff (by decide)).mpr (by decide),
    fun heq => (pipeline_render_eq_iff (by decide)).mp heq ["echo", "2>>"] (by decide) "2>>"
      (by decide) (by decide)⟩

end Conch.Line
