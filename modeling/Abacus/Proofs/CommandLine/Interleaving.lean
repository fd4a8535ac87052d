import Abacus.CommandLine.Arguments
import Mathlib.Data.List.Basic

/-!
# Text with a sign among options

If some word of the text starts with a minus, options may stand anywhere between the words: the
arguments ask for the words in their order and for the options, and no word is taken for an option.
Words that are options themselves are left out, and so is the double dash.

The options are put first, which tells them from the words (`partition_of_interleaves`).  In front
of the double dash there are then only options, and only words behind it.
-/

namespace Abacus.CommandLine

variable {argv ts : List Text} {t : Text}

/-! ## Options as they are given -/

def Mode.name : Mode → Text
  | .auto => "auto".toList
  | .expr => "expr".toList
  | .base => "base".toList

theorem Mode.ofName?_name (m : Mode) : Mode.ofName? m.name = some m := by
  cases m <;> rfl

/-- An option in one of its spellings. -/
inductive Choice where
  | json
  | verbose
  | shortVerbose
  | mode (m : Mode)
  | assignedMode (m : Mode)
deriving DecidableEq

namespace Choice

/-- The arguments that an option is given by, which stay together. -/
def words : Choice → List Text
  | .json => ["--json".toList]
  | .verbose => ["--verbose".toList]
  | .shortVerbose => ["-v".toList]
  | .mode m => ["--mode".toList, m.name]
  | .assignedMode m => ["--mode=".toList ++ m.name]

def mode? : Choice → Option Mode
  | .mode m => some m
  | .assignedMode m => some m
  | _ => none

end Choice

/-- The mode of the last option that gives one. -/
def lastMode (os : List Choice) : Mode := (os.filterMap Choice.mode?).getLast?.getD .auto

def asksJson (os : List Choice) : Bool := os.contains .json

def asksVerbose (os : List Choice) : Bool := os.contains .verbose || os.contains .shortVerbose

/-- Words and options in one sequence of arguments, each in their order. -/
inductive Interleaves : List Text → List Choice → List Text → Prop
  | nil : Interleaves [] [] []
  | word {ts os argv} (t : Text) : Interleaves ts os argv → Interleaves (t :: ts) os (t :: argv)
  | option {ts os argv} (o : Choice) :
      Interleaves ts os argv → Interleaves ts (o :: os) (o.words ++ argv)

/-- The arguments that are no words of a text. -/
def reserved : List Text :=
  ["--", "--mode", "--json", "-v", "--verbose", "-h", "--help"].map String.toList

/-- The text is no option and no double dash. -/
structure IsFree (t : Text) : Prop where
  not_reserved : t ∉ reserved
  not_assigned : ¬ "--mode=".toList <+: t

/-- The text starts with a minus and a figure, a point or a parenthesis. -/
def IsSigned (t : Text) : Prop := ∃ c r, t = '-' :: c :: r ∧ (c.isDigit ∨ c = '.' ∨ c = '(')

theorem IsSigned.isSignedText (h : IsSigned t) : isSignedText t := by
  obtain ⟨c, r, rfl, hc | rfl | rfl⟩ := h
  · simp [CommandLine.isSignedText, hc]
  · rfl
  · rfl

namespace IsFree

theorem ne_separator (h : IsFree t) : t ≠ separator := by
  rintro rfl
  exact h.not_reserved (by decide)

theorem ne_modeOption (h : IsFree t) : t ≠ modeOption := by
  rintro rfl
  exact h.not_reserved (by decide)

theorem not_isPlainOption (h : IsFree t) : isPlainOption t = false := by
  rw [isPlainOption, Bool.or_eq_false_iff]
  constructor
  · exact Bool.eq_false_iff.2 fun hstarts => h.not_assigned (List.isPrefixOf_iff_prefix.1 hstarts)
  · refine Bool.eq_false_iff.2 fun hmem => h.not_reserved ?_
    have hsub : ["--json".toList, "-v".toList, "--verbose".toList, "-h".toList, "--help".toList] ⊆
        reserved := by decide
    exact hsub (List.contains_iff_mem.1 hmem)

end IsFree

/-! ## Options first -/

theorem partition_word (hmode : t ≠ modeOption) (hplain : isPlainOption t = false)
    (r : List Text) : partition (t :: r) = ((partition r).1, t :: (partition r).2) := by
  cases r with
  | nil => simp [partition, hmode, hplain]
  | cons v r => simp [partition, hmode, hplain]

theorem partition_plain (hmode : t ≠ modeOption) (hplain : isPlainOption t)
    (r : List Text) : partition (t :: r) = (t :: (partition r).1, (partition r).2) := by
  cases r with
  | nil => simp [partition, hplain]
  | cons v r => simp [partition, hmode, hplain]

theorem partition_mode (v : Text) (r : List Text) : partition (modeOption :: v :: r) =
    (modeOption :: v :: (partition r).1, (partition r).2) := by
  rw [partition, if_pos rfl]

theorem partition_choice (o : Choice) (r : List Text) :
    partition (o.words ++ r) = (o.words ++ (partition r).1, (partition r).2) := by
  cases o with
  | json => exact partition_plain (by decide) (by decide) r
  | verbose => exact partition_plain (by decide) (by decide) r
  | shortVerbose => exact partition_plain (by decide) (by decide) r
  | mode m => exact partition_mode m.name r
  | assignedMode m =>
    cases m <;> exact partition_plain (by decide) (by decide) r

/-- Options and words are told apart. -/
theorem partition_of_interleaves {os : List Choice} (h : Interleaves ts os argv)
    (hfree : ∀ t ∈ ts, IsFree t) : partition argv = (os.flatMap Choice.words, ts) := by
  induction h with
  | nil => rfl
  | word t _ ih =>
    obtain ⟨ht, hts⟩ := List.forall_mem_cons.1 hfree
    rw [partition_word ht.ne_modeOption ht.not_isPlainOption, ih hts]
  | option o _ ih => rw [partition_choice, ih hfree, List.flatMap_cons]

theorem Interleaves.mem {os : List Choice} (h : Interleaves ts os argv) (ht : t ∈ ts) :
    t ∈ argv := by
  induction h with
  | nil => exact ht
  | word u _ ih =>
    rcases List.mem_cons.1 ht with rfl | ht
    · exact List.mem_cons_self
    · exact List.mem_cons_of_mem u (ih ht)
  | option o _ ih => exact List.mem_append_right o.words (ih ht)

theorem Choice.separator_notMem (o : Choice) : separator ∉ o.words := by
  cases o with
  | json => decide
  | verbose => decide
  | shortVerbose => decide
  | mode m => cases m <;> decide
  | assignedMode m => cases m <;> decide

theorem Interleaves.separator_notMem {os : List Choice} (h : Interleaves ts os argv)
    (hfree : ∀ t ∈ ts, IsFree t) : separator ∉ argv := by
  induction h with
  | nil => exact List.not_mem_nil
  | word t _ ih =>
    obtain ⟨ht, hts⟩ := List.forall_mem_cons.1 hfree
    intro hmem
    rcases List.mem_cons.1 hmem with heq | hmem
    · exact ht.ne_separator heq.symm
    · exact ih hts hmem
  | option o _ ih =>
    intro hmem
    rcases List.mem_append.1 hmem with hmem | hmem
    · exact o.separator_notMem hmem
    · exact ih hfree hmem

theorem optionsFirst_of_interleaves {os : List Choice} (h : Interleaves ts os argv)
    (hfree : ∀ t ∈ ts, IsFree t) (hsigned : ∃ t ∈ ts, IsSigned t) :
    optionsFirst argv = os.flatMap Choice.words ++ separator :: ts := by
  obtain ⟨t, ht, hsign⟩ := hsigned
  have hseparator : argv.contains separator = false :=
    Bool.eq_false_iff.2 fun hmem => h.separator_notMem hfree (List.contains_iff_mem.1 hmem)
  have hany : argv.any isSignedText = true :=
    List.any_eq_true.2 ⟨t, h.mem ht, hsign.isSignedText⟩
  rw [optionsFirst, hseparator, hany, partition_of_interleaves h hfree, Bool.not_true,
    Bool.or_false, if_neg Bool.false_ne_true, List.append_assoc, List.singleton_append]

/-! ## What the arguments are -/

/-- What the words of an option are by themselves. -/
def Choice.arguments : Choice → List Argument
  | .json => [.option .json none]
  | .verbose => [.option .verbose none]
  | .shortVerbose => [.letters (some [.verbose])]
  | .mode m => [.option .mode none, .text m.name]
  | .assignedMode m => [.option .mode (some m.name)]

theorem ofTexts_choice (o : Choice) (r : List Text) :
    Argument.ofTexts (o.words ++ r) = o.arguments ++ Argument.ofTexts r := by
  cases o with
  | json => rfl
  | verbose => rfl
  | shortVerbose => rfl
  | mode m => cases m <;> rfl
  | assignedMode m => cases m <;> rfl

/-- Options in front of the double dash, and words behind it. -/
theorem ofTexts_choices (os : List Choice) (ts : List Text) :
    Argument.ofTexts (os.flatMap Choice.words ++ separator :: ts) =
      os.flatMap Choice.arguments ++ .separator :: ts.map .text := by
  induction os with
  | nil => rfl
  | cons o os ih =>
    rw [List.flatMap_cons, List.flatMap_cons, List.append_assoc, List.append_assoc,
      ofTexts_choice, ih]

theorem not_isAmbiguous_choices (os : List Choice) (ts : List Text) :
    (os.flatMap Choice.arguments ++ Argument.separator :: ts.map Argument.text).any
      Argument.isAmbiguous = false := by
  have hoption : ∀ o : Choice, ∀ a ∈ o.arguments, Argument.isAmbiguous a = false := by
    intro o
    cases o <;> simp [Choice.arguments, Argument.isAmbiguous]
  rw [List.any_eq_false]
  intro a ha
  rw [Bool.not_eq_true]
  rcases List.mem_append.1 ha with ha | ha
  · obtain ⟨o, -, ha⟩ := List.mem_flatMap.1 ha
    exact hoption o a ha
  · rcases List.mem_cons.1 ha with rfl | ha
    · rfl
    · obtain ⟨t, -, rfl⟩ := List.mem_map.1 ha
      rfl

/-! ## What has been read -/

/-- What has been read behind options only. -/
def Progress.behind (os : List Choice) : Progress :=
  ⟨none, false, false, some (lastMode os), asksJson os, asksVerbose os⟩

theorem lastMode_concat (os : List Choice) (o : Choice) :
    lastMode (os ++ [o]) = o.mode?.getD (lastMode os) := by
  rw [lastMode, List.filterMap_append, List.getLast?_append]
  cases h : o.mode? with
  | none => simp [h, lastMode]
  | some m => simp [h]

theorem asksJson_concat (os : List Choice) (o : Choice) :
    asksJson (os ++ [o]) = (asksJson os || decide (o = .json)) := by
  cases o <;> simp [asksJson]

theorem asksVerbose_concat (os : List Choice) (o : Choice) :
    asksVerbose (os ++ [o]) = (asksVerbose os || decide (o = .verbose ∨ o = .shortVerbose)) := by
  cases o <;> simp [asksVerbose]

theorem setMode_name (p : Progress) (m : Mode) :
    p.setMode m.name = .ok { p with mode := some m } := by
  have hseparator : m.name ≠ separator := by cases m <;> decide
  rw [Progress.setMode, if_neg hseparator, m.ofName?_name]

/-- An option adds to what has been read. -/
theorem consume_choice (os : List Choice) (o : Choice) (as : List Argument) :
    consume (.behind os) (o.arguments ++ as) = consume (.behind (os ++ [o])) as := by
  rw [Progress.behind.eq_1 (os ++ [o]), lastMode_concat, asksJson_concat, asksVerbose_concat]
  cases o <;>
    simp [Choice.arguments, Choice.mode?, consume, Progress.behind, Progress.close, Progress.flag,
      setMode_name, bind, Except.bind, pure, Except.pure]

/-- Options after one another add to what has been read. -/
theorem consume_choices (os₁ os₂ : List Choice) (as : List Argument) :
    consume (.behind os₁) (os₂.flatMap Choice.arguments ++ as) =
      consume (.behind (os₁ ++ os₂)) as := by
  induction os₂ generalizing os₁ with
  | nil => rw [List.flatMap_nil, List.nil_append, List.append_nil]
  | cons o os₂ ih =>
    rw [List.flatMap_cons, List.append_assoc, consume_choice, ih, List.append_assoc,
      List.singleton_append]

/-- Words go on with an open text. -/
theorem consume_words (p : Progress) (ws : List Text) (hwords : p.words = some ws)
    (hopen : p.isOpen) (ts : List Text) :
    consume p (ts.map Argument.text) = .ok { p with words := some (ws ++ ts) } := by
  induction ts generalizing p ws with
  | nil => rw [List.map_nil, consume, List.append_nil, ← hwords]
  | cons t ts ih =>
    have hword : p.word t = { p with words := some (ws ++ [t]) } := by
      rw [Progress.word, hwords]
      exact if_pos hopen
    rw [List.map_cons, consume, hword,
      ih { p with words := some (ws ++ [t]) } (ws ++ [t]) rfl hopen, List.append_assoc,
      List.singleton_append]

/-- Behind options and the double dash, words make up the text. -/
theorem consume_text (os : List Choice) (hts : ts ≠ []) :
    consume (.behind os) (.separator :: ts.map .text) =
      .ok { Progress.behind os with words := some ts, isOpen := true } := by
  obtain ⟨t, r, rfl⟩ := List.exists_cons_of_ne_nil hts
  exact consume_words ((Progress.behind os).word t) [t] rfl rfl r

/-- If a word starts with a minus, words and options may be interleaved at will: the text is made up
of all words in their order, and each option counts. -/
theorem ofArguments_of_interleaves {os : List Choice} (h : Interleaves ts os argv)
    (hfree : ∀ t ∈ ts, IsFree t) (hsigned : ∃ t ∈ ts, IsSigned t) :
    Request.ofArguments argv =
      .ok ⟨Text.joined [' '] ts, lastMode os, asksJson os, asksVerbose os⟩ := by
  have hts : ts ≠ [] := by
    obtain ⟨t, ht, -⟩ := hsigned
    exact List.ne_nil_of_mem ht
  have hconsume : consume .start (os.flatMap Choice.arguments ++ .separator :: ts.map .text) =
      .ok { Progress.behind os with words := some ts, isOpen := true } :=
    (consume_choices [] os _).trans (consume_text os hts)
  rw [Request.ofArguments, optionsFirst_of_interleaves h hfree hsigned, ofTexts_choices,
    if_neg (ne_true_of_eq_false (not_isAmbiguous_choices os ts)), hconsume]
  rfl

/-- Words in front of, between and behind options, where a word looks like an option and another
like the value of a mode. -/
theorem ofArguments_of_interleaves_minus :
    Request.ofArguments (["--mode=expr", "-0b1", "--json", "--js", "--mode", "base", "expr",
        "-v"].map String.toList) =
      .ok ⟨"-0b1 --js expr".toList, .base, true, true⟩ := by
  have hinterleaves : Interleaves (["-0b1", "--js", "expr"].map String.toList)
      [.assignedMode .expr, .json, .mode .base, .shortVerbose] _ :=
    .option _ (.word _ (.option _ (.word _ (.option _ (.word _ (.option _ .nil))))))
  have hfree : ∀ t ∈ ["-0b1", "--js", "expr"].map String.toList, IsFree t := by
    intro t ht
    have hreserved : t ∉ reserved := by
      revert t
      decide
    have hassigned : ¬ "--mode=".toList <+: t := by
      clear hreserved
      revert t
      decide
    exact ⟨hreserved, hassigned⟩
  exact ofArguments_of_interleaves hinterleaves hfree
    ⟨"-0b1".toList, by decide, '0', "b1".toList, rfl, .inl (by decide)⟩

end Abacus.CommandLine
