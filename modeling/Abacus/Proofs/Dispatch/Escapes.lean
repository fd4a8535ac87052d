import Abacus.Proofs.Payload.Conformance
import Abacus.Proofs.Session.Currency
import Abacus.Proofs.Text.Tables

/-!
# What escapes

Whatever is wrong with a text, it is dispatched to an outcome, a session follows it and the command
answers it, with one exception.  A target tag of digit signs is taken for a number without being one
that can be converted: circled digits and superscripts are no decimal digits, and a number has at
most so many digits.  The failure of such a tag is no fault of the input's notation and passes
through everything above it.

`IsBroken` says which tags these are.  Dispatch, sessions and the command each part into what they
should come to and the failure of a tag, according to whether they get to a broken tag at all.

The limits of a platform on nesting and recursion are set aside: expressions are read and evaluated
at any depth here.  What the calculator makes of the signal that something is nested too deeply,
`Expr.SignalKind.depth`, is told of `Expr.Platform`.
-/

namespace Abacus

namespace Numeral

variable {s t : Text}

/-! ## Broken tags -/

/-- A text of digit signs that shows no number that can be converted. -/
structure IsBroken (t : Text) : Prop where
  ne_nil : t ≠ []
  signs : ∀ c ∈ t, Text.showsDigit c
  fault : Text.digitLimit < t.length ∨ ∃ c ∈ t, Text.isDecimal c = false

/-- The target tag of a text is broken. -/
def HasBrokenTag (s : Text) : Prop := IsBroken (Text.lower (Text.trim (Request.ofText s).tag))

theorem exists_tagNumber_eq_error_iff :
    (∃ f, tagNumber t = .error f) ↔
      Text.digitLimit < t.length ∨ ∃ c ∈ t, Text.isDecimal c = false := by
  rw [tagNumber]
  by_cases hall : ∀ c ∈ t, Text.isDecimal c = true
  · have hnone : ¬ ∃ c ∈ t, Text.isDecimal c = false := by
      rintro ⟨c, hc, hfalse⟩
      rw [hall c hc] at hfalse
      cases hfalse
    rw [List.takeWhile_eq_self_iff.2 hall, if_pos (List.all_eq_true.2 hall)]
    by_cases hlong : Text.digitLimit < t.length
    · simp [hlong]
    · simp [hlong, hnone]
  · have hsome : ∃ c ∈ t, Text.isDecimal c = false := by simpa using hall
    rw [if_neg (mt List.all_eq_true.1 hall)]
    refine ⟨fun _ => .inr hsome, fun _ => ?_⟩
    split
    · exact ⟨_, rfl⟩
    · exact ⟨_, rfl⟩

theorem namedTags_short :
    ∀ p ∈ namedTags, p.1.length ≤ Text.digitLimit ∧ ∀ c ∈ p.1, c.toNat < 128 := by
  decide

/-- A tag with a name is not broken: among ASCII characters only decimal digits show a digit. -/
theorem not_isBroken_of_lookup {b : Base} (h : namedTags.lookup t = some b) : ¬ IsBroken t := by
  intro hbroken
  obtain ⟨l₁, l₂, hnamed, -⟩ := List.lookup_eq_some_iff.1 h
  have hmem : (t, b) ∈ namedTags := hnamed ▸ List.mem_append_right l₁ List.mem_cons_self
  obtain ⟨hlength, hascii⟩ := namedTags_short _ hmem
  rcases hbroken.fault with hlong | ⟨c, hc, hfalse⟩
  · exact absurd hlength (Nat.not_le.2 hlong)
  · have hsign := hbroken.signs c hc
    rw [Text.showsDigit_eq_of_lt (hascii c hc), hfalse] at hsign
    cases hsign

/-- The base of a tag cannot be told just where the tag is broken. -/
theorem exists_baseOfTag_eq_error_iff (tag : Text) :
    (∃ f, baseOfTag tag = .error f) ↔ IsBroken (Text.lower (Text.trim tag)) := by
  rw [baseOfTag]
  generalize Text.lower (Text.trim tag) = t
  cases hnamed : namedTags.lookup t with
  | some b => exact iff_of_false nofun (not_isBroken_of_lookup hnamed)
  | none =>
    by_cases hsigns : (!t.isEmpty && t.all Text.showsDigit) = true
    · have hshown : t ≠ [] ∧ ∀ c ∈ t, Text.showsDigit c := by simpa using hsigns
      have hnumber := exists_tagNumber_eq_error_iff (t := t)
      simp only [hsigns, if_true]
      constructor
      · rintro ⟨f, hf⟩
        have herror : ∃ f, tagNumber t = .error f := by
          cases hn : tagNumber t with
          | error g => exact ⟨g, rfl⟩
          | ok n =>
            rw [hn] at hf
            cases hf
        exact ⟨hshown.1, hshown.2, hnumber.1 herror⟩
      · intro hbroken
        obtain ⟨f, hf⟩ := hnumber.2 hbroken.fault
        exact ⟨f, by rw [hf]; rfl⟩
    · simp only [hsigns, Bool.false_eq_true, if_false]
      refine iff_of_false nofun fun hbroken => hsigns ?_
      simpa using And.intro hbroken.ne_nil hbroken.signs

theorem HasBrokenTag.hasTarget (h : HasBrokenTag s) : (Request.ofText s).hasTarget = true := by
  rw [Request.hasTarget]
  cases htag : (Request.ofText s).tag with
  | nil =>
    rw [HasBrokenTag, htag] at h
    exact absurd rfl h.ne_nil
  | cons c r => rfl

/-- Reading a numeral fails over its tag just where the value can be read and the tag is broken. -/
theorem exists_ofText_eq_tag_iff : (∃ f, Numeral.ofText s = .error (.tag f)) ↔
    (∃ n, read (Request.ofText s).value = .ok n) ∧ HasBrokenTag s := by
  have hbase := exists_baseOfTag_eq_error_iff (Request.ofText s).tag
  constructor
  · rintro ⟨f, hf⟩
    rw [Numeral.ofText] at hf
    split at hf
    · cases hf
    rename_i n hn
    split at hf
    · split at hf
      · rename_i g hg
        exact ⟨⟨n, hn⟩, hbase.1 ⟨g, hg⟩⟩
      · cases hf
    · cases hf
  · rintro ⟨⟨n, hn⟩, htag⟩
    obtain ⟨f, hf⟩ := hbase.2 htag
    refine ⟨f, ?_⟩
    rw [Numeral.ofText, hn]
    dsimp only
    rw [if_pos htag.hasTarget, hf]

/-- A numeral that is not read fails with a message or over its tag. -/
theorem isSome_report?_or_tag {f : Failure} (h : Numeral.ofText s = .error f) :
    f.report?.isSome ∨ ∃ g, f = .tag g := by
  rw [Numeral.ofText] at h
  split at h
  · cases h
    exact .inl rfl
  split at h
  · split at h
    · cases h
      exact .inr ⟨_, rfl⟩
    · cases h
  · cases h

end Numeral

open Numeral (HasBrokenTag)

variable {cfg : Limits} {text s : Text} {k : Kind}

/-! ## Classification -/

/-- A text is neither empty nor too long to be classified, and its tag is broken. -/
structure Escapes (cfg : Limits) (text : Text) : Prop where
  ne_nil : Text.trim text ≠ []
  length_le : (Text.trim text).length ≤ cfg.maxSelection
  tag : HasBrokenTag (Text.trim text)

theorem exists_classify_eq_error_iff :
    (∃ f, classify cfg (Text.trim text) = .error f) ↔ Escapes cfg text := by
  have hbase := Numeral.exists_baseOfTag_eq_error_iff
    (Numeral.Request.ofText (Text.trim text)).tag
  constructor
  · rintro ⟨f, hf⟩
    rw [classify] at hf
    split at hf
    · cases hf
    rename_i hempty
    split at hf
    · cases hf
    rename_i hlength
    dsimp only at hf
    refine ⟨by simpa using hempty, Int.not_lt.1 hlength, ?_⟩
    -- what classifies an unbroken tag, or none, does not fail
    split at hf
    · rename_i g hg
      split at hg
      · exact hbase.1 ⟨g, hg⟩
      · cases hg
    · cases hf
    · repeat' split at hf
      all_goals cases hf
  · intro h
    obtain ⟨f, hf⟩ := hbase.2 h.tag
    refine ⟨f, ?_⟩
    rw [classify, if_neg (by simpa using h.ne_nil), if_neg (Int.not_lt.2 h.length_le)]
    dsimp only
    rw [if_pos h.tag.hasTarget, hf]

theorem exists_classify_eq_ok (h : ¬ Escapes cfg text) :
    ∃ r, classify cfg (Text.trim text) = .ok r := by
  cases hr : classify cfg (Text.trim text) with
  | ok r => exact ⟨r, rfl⟩
  | error f => exact absurd (exists_classify_eq_error_iff.1 ⟨f, hr⟩) h

/-! ## Dispatch -/

/-- What a text should be dispatched to: the report of a pipeline, or in its place why the text is
ignored, or what the pipeline finds wrong with it. -/
inductive IsOutcome (cfg : Limits) (s : Text) : Outcome → Prop
  | report {k : Kind} {items : List Item} (hrun : run cfg k s = .ok items) (hne : items ≠ []) :
      IsOutcome cfg s ⟨k, s, items, none⟩
  | ignored (r : Reason) (hr : r.kind = .ignored) :
      IsOutcome cfg s ⟨.ignored, s, [], some ("Input ignored: ".toList ++ r.name)⟩
  | fault {k : Kind} {f : Failure} {m : Text} (hrun : run cfg k s = .error f)
      (hm : f.report? = some m) : IsOutcome cfg s ⟨k, s, [], some m⟩

theorem exists_isOutcome (h : ¬ Escapes cfg text) :
    ∃ o, dispatch cfg text = .ok o ∧ IsOutcome cfg (Text.trim text) o := by
  obtain ⟨r, hr⟩ := exists_classify_eq_ok h
  rw [dispatch, hr]
  dsimp only
  by_cases hkind : r.kind = .ignored
  · rw [if_pos hkind]
    exact ⟨_, rfl, hkind ▸ .ignored r hkind⟩
  rw [if_neg hkind]
  cases hrun : run cfg r.kind (Text.trim text) with
  | ok items => exact ⟨_, rfl, .report hrun (Report.isFilled_of_run hrun).ne_nil⟩
  | error f =>
    obtain ⟨m, hm⟩ := Option.isSome_iff_exists.1 (Session.isSome_report?_of_run hr hkind hrun)
    dsimp only
    rw [hm]
    exact ⟨_, rfl, .fault hrun hm⟩

theorem exists_dispatch_eq_tag (h : Escapes cfg text) :
    ∃ f, dispatch cfg text = .error (.tag f) := by
  obtain ⟨f, hf⟩ := exists_classify_eq_error_iff.2 h
  refine ⟨f, ?_⟩
  rw [dispatch, hf]

/-! ## Sessions -/

namespace Session

variable {s : Session} {sel : Option Text}

/-- A step is a selection of a text with a broken tag. -/
def Step.Escapes (cfg : Limits) : Step → Prop
  | .select text => Abacus.Escapes cfg text
  | _ => False

theorem failure_of_select (h : ¬ Abacus.Escapes cfg text) :
    (select cfg s text).2.failure = none := by
  obtain ⟨r, hr⟩ := exists_classify_eq_ok h
  rw [select]
  dsimp only
  rw [hr]
  split
  · rfl
  dsimp only
  split
  · rfl
  split <;> rfl

theorem exists_failure_of_select (h : Abacus.Escapes cfg text) :
    ∃ f, (select cfg s text).2.failure = some (.tag f) := by
  obtain ⟨f, hf⟩ := exists_classify_eq_error_iff.2 h
  refine ⟨f, ?_⟩
  rw [select]
  dsimp only
  rw [if_neg (by simpa using h.ne_nil), hf]

/-- A task that is taken out has been classified, so that its pipeline fails with a message only. -/
theorem Follows.failure_of_performTaken (h : Follows cfg s sel) {r : Option Task × Deferral Task}
    (hr : s.deferral.Takes r) : (Session.performTaken cfg s r).2.failure = none := by
  obtain ⟨taken, d⟩ := r
  cases taken with
  | none => rfl
  | some task =>
    rcases hr with ⟨hr, -⟩ | ⟨hr, -⟩
    · cases hr
    obtain ⟨reason, hreason, hkind, hruns⟩ := h.waiting task hr.symm
    change (perform cfg { s with deferral := d } task).2.failure = none
    rw [perform]
    split
    · rfl
    split
    · rfl
    rename_i f hf
    obtain ⟨m, hm⟩ := Option.isSome_iff_exists.1
      (isSome_report?_of_run hreason hruns (hkind ▸ hf))
    rw [hm]

theorem Follows.failure_of_step (h : Follows cfg s sel) {st : Step} (hst : ¬ st.Escapes cfg) :
    (Session.step cfg s st).2.failure = none := by
  cases st with
  | select text => exact failure_of_select hst
  | fire i => exact h.failure_of_performTaken (s.deferral.takes_fire i)
  | flush => exact h.failure_of_performTaken s.deferral.takes_flush
  | cancel => rfl

theorem exists_failure_of_step {st : Step} (hst : st.Escapes cfg) :
    ∃ f, (step cfg s st).2.failure = some (.tag f) := by
  cases st with
  | select text => exact exists_failure_of_select hst
  | fire i => exact hst.elim
  | flush => exact hst.elim
  | cancel => exact hst.elim

end Session

/-! ## The command -/

namespace CommandLine

variable {json verbose : Bool} {r : Request}

/-- The command is done, or it writes an error line behind its log and nothing else. -/
inductive IsExit : Result → Prop
  | done (out err : Text) : IsExit (.output ⟨0, out, err⟩)
  | refused (log : List Text) (m : Text) :
      IsExit (.output ⟨1, [], lines (log ++ [errorLine m])⟩)

/-- The command gets to a broken tag: in classifying the text, or as its mode is the one of numerals
and the value in front of the tag can be read. -/
def Request.Escapes (r : Request) : Prop :=
  match r.mode with
  | .auto => Abacus.Escapes {} r.text
  | .base => (∃ n, Numeral.read (Numeral.Request.ofText (Text.trim r.text)).value = .ok n) ∧
      HasBrokenTag (Text.trim r.text)
  | .expr => False

theorem isExit_answer (h : ∀ f, run cfg k s = .error f → f.report?.isSome) :
    IsExit (answer cfg k s json verbose) := by
  cases hrun : run cfg k s with
  | ok items =>
    obtain ⟨err, hanswer⟩ := answer_of_run hrun json verbose
    rw [hanswer]
    exact .done _ err
  | error f =>
    obtain ⟨m, hm⟩ := Option.isSome_iff_exists.1 (h f hrun)
    rw [answer, hrun]
    dsimp only
    rw [hm]
    exact .refused _ m

theorem answer_eq_failed {f : Failure} (h : run cfg k s = .error f) (hf : f.report? = none) :
    answer cfg k s json verbose = .failed f := by
  rw [answer, h]
  dsimp only
  rw [hf]

theorem isSome_report?_of_numeral (h : ∀ f, Numeral.ofText s ≠ .error (.tag f)) {f : Failure}
    (hf : run cfg .numeral s = .error f) : f.report?.isSome := by
  have hn : Numeral.ofText s = .error f := by
    rw [run, Conversion.ofText] at hf
    cases hn : Numeral.ofText s with
    | ok n =>
      rw [hn] at hf
      cases hf
    | error g =>
      rw [hn] at hf
      cases hf
      rfl
  rcases Numeral.isSome_report?_or_tag hn with hreport | ⟨g, rfl⟩
  · exact hreport
  · exact absurd hn (h g)

theorem isSome_report?_of_expression {f : Failure} (hf : run cfg .expression s = .error f) :
    f.report?.isSome := by
  rw [run] at hf
  split at hf
  · cases hf
  · cases hf
    rfl

theorem isExit_perform (h : ¬ r.Escapes) : IsExit (perform r) := by
  rw [Request.Escapes] at h
  rw [perform]
  cases hmode : r.mode with
  | expr => exact isExit_answer fun f hf => isSome_report?_of_expression hf
  | base =>
    rw [hmode] at h
    refine isExit_answer fun f hf => isSome_report?_of_numeral (fun g hg => h ?_) hf
    exact Numeral.exists_ofText_eq_tag_iff.1 ⟨g, hg⟩
  | auto =>
    rw [hmode] at h
    obtain ⟨reason, hreason⟩ := exists_classify_eq_ok h
    dsimp only
    rw [hreason]
    dsimp only
    split
    · exact .refused [] _
    · rename_i hkind
      exact isExit_answer fun f hf => Session.isSome_report?_of_run hreason hkind hf

theorem exists_perform_eq_tag (h : r.Escapes) : ∃ f, perform r = .failed (.tag f) := by
  rw [Request.Escapes] at h
  rw [perform]
  cases hmode : r.mode with
  | expr =>
    rw [hmode] at h
    exact h.elim
  | base =>
    rw [hmode] at h
    obtain ⟨f, hf⟩ := Numeral.exists_ofText_eq_tag_iff.2 h
    have hrun : run {} .numeral (Text.trim r.text) = .error (.tag f) := by
      rw [run, Conversion.ofText, hf]
      rfl
    exact ⟨f, answer_eq_failed hrun rfl⟩
  | auto =>
    rw [hmode] at h
    obtain ⟨f, hf⟩ := exists_classify_eq_error_iff.2 h
    refine ⟨f, ?_⟩
    dsimp only
    rw [hf]

end CommandLine

/-! ## All of it -/

/-- A condition that leads to one of two results, where these exclude each other, tells which it
is. -/
theorem iff_not_and_iff {p a b : Prop} (ha : ¬ p → a) (hb : p → b) (hab : a → ¬ b) :
    (a ↔ ¬ p) ∧ (b ↔ p) := by
  tauto

open Session CommandLine in
/-- A text is dispatched to an outcome, a step from a state that a session gets to has no failure,
and the command exits with zero or one, if and only if no broken tag is met.  Where one is met, the
failure of the tag comes out. -/
theorem contained_iff (cfg : Limits) :
    (∀ text : Text,
      ((∃ o, dispatch cfg text = .ok o ∧ IsOutcome cfg (Text.trim text) o) ↔ ¬ Escapes cfg text) ∧
      ((∃ f, dispatch cfg text = .error (.tag f)) ↔ Escapes cfg text)) ∧
    (∀ (sts : List Step) (st : Step),
      ((step cfg (final cfg start sts) st).2.failure = none ↔ ¬ st.Escapes cfg) ∧
      ((∃ f, (step cfg (final cfg start sts) st).2.failure = some (.tag f)) ↔ st.Escapes cfg)) ∧
    ∀ r : Request,
      (IsExit (perform r) ↔ ¬ r.Escapes) ∧ ((∃ f, perform r = .failed (.tag f)) ↔ r.Escapes) := by
  refine ⟨fun text => ?_, fun sts st => ?_, fun r => ?_⟩
  · refine iff_not_and_iff exists_isOutcome exists_dispatch_eq_tag ?_
    rintro ⟨o, ho, -⟩ ⟨f, hf⟩
    cases ho.symm.trans hf
  · refine iff_not_and_iff (follows_start.run sts).failure_of_step exists_failure_of_step ?_
    rintro hnone ⟨f, hf⟩
    cases hnone.symm.trans hf
  · refine iff_not_and_iff isExit_perform exists_perform_eq_tag ?_
    rintro hexit ⟨f, hf⟩
    rw [hf] at hexit
    cases hexit

set_option maxRecDepth 1000000 in
/-- A superscript two has no lower case, is no decimal digit and shows a digit. -/
theorem superscript_two : Text.lower ['²'] = ['²'] ∧ Text.isDecimal '²' = false ∧
    Text.showsDigit '²' = true := by
  have hlower : Text.lowerImages.find? 178 = none := by
    unfold Text.lowerImages CodePoints.Images.ofString CodePoints.words
    rw [String.toList_ofList]
    decide +kernel
  have hzeros : Text.zeros.find? (fun z => z ≤ 178 && 178 < z + 10) = none := by
    unfold Text.zeros CodePoints.words
    rw [String.toList_ofList]
    decide
  have hsigns : Text.digitSigns.contains 178 = true := by
    unfold Text.digitSigns CodePoints.Runs.ofString CodePoints.words
    rw [String.toList_ofList]
    decide
  have hnat : ('²').toNat = 178 := rfl
  have hnone : Text.isDecimal '²' = false := by
    rw [Text.isDecimal, Text.decimalValue?, hnat, hzeros]
    rfl
  refine ⟨?_, hnone, ?_⟩
  · rw [Text.lower, Text.lowerFrom, Text.lowerChar, hnat, hlower]
    rfl
  · rw [Text.showsDigit, hnat, hsigns, Bool.or_true]

theorem escapes_superscript : Escapes {} "1 to ²".toList where
  ne_nil := by decide
  length_le := by decide
  tag := by
    have htag : Text.trim (Numeral.Request.ofText (Text.trim "1 to ²".toList)).tag = ['²'] := by
      decide
    obtain ⟨hlower, hdecimal, hshows⟩ := superscript_two
    rw [HasBrokenTag, htag, hlower]
    exact ⟨by simp, by simpa using hshows, .inr ⟨'²', List.mem_singleton_self _, hdecimal⟩⟩

open Session CommandLine in
/-- A tag is not always known or passed over: a superscript two is taken for a number, so that
dispatch has no outcome, a selection does not return, and the command does not exit. -/
theorem not_contained_superscript :
    (¬ ∃ o, dispatch {} "1 to ²".toList = .ok o) ∧
    (step {} start (.select "1 to ²".toList)).2.failure ≠ none ∧
    ¬ IsExit (CommandLine.perform ⟨"1 to ²".toList, .auto, false, false⟩) ∧
    ¬ IsExit (CommandLine.perform ⟨"1 to ²".toList, .base, false, false⟩) := by
  have hvalue : (Numeral.Request.ofText (Text.trim "1 to ²".toList)).value = "1".toList := by
    decide +kernel
  have hread : Numeral.read "1".toList = .ok ⟨1, .ten, .decimal, none⟩ := rfl
  obtain ⟨f, hdispatch⟩ := exists_dispatch_eq_tag escapes_superscript
  obtain ⟨f', hselect⟩ := exists_failure_of_select (s := start) escapes_superscript
  obtain ⟨g, hauto⟩ := exists_perform_eq_tag
    (r := ⟨"1 to ²".toList, .auto, false, false⟩) escapes_superscript
  obtain ⟨g', hbase⟩ := exists_perform_eq_tag
    (r := ⟨"1 to ²".toList, .base, false, false⟩) ⟨⟨_, hvalue ▸ hread⟩, escapes_superscript.tag⟩
  rw [hdispatch, step, hselect, hauto, hbase]
  refine ⟨?_, Option.some_ne_none _, ?_, ?_⟩
  · rintro ⟨o, ho⟩
    cases ho
  · rintro ⟨⟩
  · rintro ⟨⟩

end Abacus
