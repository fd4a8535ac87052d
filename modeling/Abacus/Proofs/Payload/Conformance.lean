import Abacus.CommandLine.Command
import Abacus.Payload.Record
import Abacus.Proofs.Numeral.Canonical

/-!
# Payloads meet their contracts

A value meets a schema when its check finds nothing: one equation for each kind of schema says when
that is.  The renderings of an integer have the shapes that the contract of conversions asks for,
in every base, and no report is empty or has an empty label.  So whatever a pipeline reports can be
handed out.
-/

namespace Abacus

variable {n : Int} {b : Base} {c : Char} {s : Text} {x : Float}

namespace Payload

open Radix (render render_eq render_ne_nil signOf shownDigits mark digitChar)
open Text (Pattern Piece)
open Text.Pattern (Covers)

/-! ## Values without violations -/

theorem broken_eq_nil {rule : Rule} {failed : Bool} : broken rule failed = [] ↔ failed = false := by
  cases failed <;> simp [broken]

theorem check_text_eq_nil {shape : Option Shape} {least : Nat} :
    check (.text shape least) (.text s) = [] ↔
      least ≤ s.length ∧ ∀ sh, shape = some sh → sh.admits s := by
  rw [check, List.append_eq_nil_iff, broken_eq_nil, broken_eq_nil]
  cases shape <;> simp

theorem checkMembers_eq_nil {defs : List (Text × Bool × Schema)} {j : Json} :
    checkMembers defs j = [] ↔ ∀ d ∈ defs, (∀ v, j.member? d.1 = some v → check d.2.2 v = []) ∧
      (j.member? d.1 = none → d.2.1 = false) := by
  induction defs with
  | nil => simp [checkMembers]
  | cons d defs ih =>
    obtain ⟨name, required, schema⟩ := d
    rw [checkMembers, List.append_eq_nil_iff, ih, List.forall_mem_cons]
    refine and_congr_left fun _ => ?_
    cases j.member? name with
    | none => simp [broken_eq_nil]
    | some v => simp

/-- A record holds no other members than it describes, and those it asks for. -/
theorem check_record_eq_nil {defs : List (Text × Bool × Schema)} {members : List (Text × Json)} :
    check (.record defs) (.object members) = [] ↔ (∀ m ∈ members, ∃ d ∈ defs, d.1 = m.1) ∧
      ∀ d ∈ defs, (∀ v, members.lookup d.1 = some v → check d.2.2 v = []) ∧
        (members.lookup d.1 = none → d.2.1 = false) := by
  rw [check, List.append_eq_nil_iff, broken_eq_nil, checkMembers_eq_nil]
  refine and_congr_left fun _ => ?_
  rw [List.any_eq_false]
  refine forall₂_congr fun m _ => ?_
  rw [Bool.not_eq_true, Bool.not_eq_false', List.any_eq_true]
  simp only [beq_iff_eq]

theorem check_sequence_eq_nil {least : Nat} {item : Schema} {values : List Json} :
    check (.sequence least item) (.list values) = [] ↔
      least ≤ values.length ∧ ∀ v ∈ values, check item v = [] := by
  rw [check, List.append_eq_nil_iff, broken_eq_nil, List.flatMap_eq_nil_iff]
  refine and_congr (by simp) ?_
  constructor
  · intro h v hv
    obtain ⟨i, hi⟩ := List.mem_iff_getElem?.1 hv
    have := h (v, i) (List.mk_mem_zipIdx_iff_getElem?.2 hi)
    simpa using this
  · rintro h ⟨v, i⟩ hvi
    rw [h v (List.fst_mem_of_mem_zipIdx hvi)]
    rfl

/-! ## The shapes of renderings -/

theorem Shape.admits_of_covers {sh : Shape} (hbreak : '\n' ∉ s) (h : Covers sh.pattern none s) :
    sh.admits s := by
  rw [admits, Text.withoutLastBreak_eq_self hbreak]
  exact Pattern.fits_of_covers h

/-- A sign is taken in front of what starts with none. -/
theorem covers_minus {p : Pattern} {r : Text} (n : Int)
    (h : ∀ before, Covers p before (c :: r)) (hc : c ≠ '-') :
    Covers (minus :: p) none (signOf n ++ c :: r) := by
  rw [signOf]
  split
  · exact .run (u := ['-']) (h _) (by simp) (by simp) (by simp) (.inr rfl)
  · exact .skip (h none) (by simpa using hc)

theorem covers_some {admits : Char → Bool} (hs : ∀ c ∈ s, admits c) (hne : s ≠ [])
    (before : Option Char) : Covers [.some admits] before s := by
  rw [← List.append_nil s]
  exact .run Pattern.covers_nil hs (List.length_pos_iff.2 hne) (by simp) (by simp)

/-- A property of the digits below a base holds of all digits that are shown in it. -/
theorem forall_mem_shownDigits {p : Char → Bool}
    (h : ∀ d ∈ List.range b.val,
      p (if b.val = 16 then (digitChar d).toUpper else digitChar d)) (m : Nat) :
    ∀ c ∈ shownDigits b m, p c := by
  rw [Radix.shownDigits_eq]
  intro c hc
  split at hc
  · rename_i hb
    obtain ⟨c', hc', rfl⟩ := List.mem_map.1 hc
    obtain ⟨d, hd, rfl⟩ := Radix.exists_of_mem_digits hc'
    simpa [hb] using h d (List.mem_range.2 hd)
  · rename_i hb
    obtain ⟨d, hd, rfl⟩ := Radix.exists_of_mem_digits hc
    simpa [hb] using h d (List.mem_range.2 hd)

/-- The characters of a rendering are letters, figures and the sign. -/
theorem isAlphanum_of_mem_body (b : Base) (m : Nat) :
    ∀ c ∈ mark b ++ shownDigits b m, c.isAlphanum := by
  have hdigit :
      ∀ d ∈ List.range 36, (digitChar d).isAlphanum ∧ (digitChar d).toUpper.isAlphanum := by
    decide
  intro c hc
  rcases List.mem_append.1 hc with hc | hc
  · have hmark : ∀ c ∈ ['0', 'x', 'b', 'o'], c.isAlphanum := by decide
    apply hmark
    rw [mark] at hc
    grind
  · obtain ⟨d, hd, hcd⟩ := Radix.exists_of_mem_shownDigits hc
    have h := hdigit d (List.mem_range.2 (Nat.lt_of_lt_of_le hd b.le_max))
    rcases hcd with rfl | rfl
    · exact h.1
    · exact h.2

theorem newline_notMem_render (b : Base) (n : Int) : '\n' ∉ render b n := by
  rw [render_eq, List.mem_append]
  rintro (h | h)
  · rw [signOf] at h
    split at h <;> simp at h
  · have := isAlphanum_of_mem_body b _ _ h
    revert this
    decide

/-- A rendering has the shape of a sign in front of what its mark and digits are taken by. -/
theorem admits_render {src : Text} {p : Pattern}
    (h : ∀ before, Covers p before (mark b ++ shownDigits b n.natAbs)) :
    (Shape.mk src (minus :: p)).admits (render b n) := by
  obtain ⟨c, r, hcr⟩ := List.exists_cons_of_ne_nil
    (List.append_ne_nil_of_right_ne_nil (mark b) (Radix.shownDigits_ne_nil b n.natAbs))
  have hc : c ≠ '-' := by
    rintro rfl
    have := isAlphanum_of_mem_body b n.natAbs '-' (hcr ▸ List.mem_cons_self)
    revert this
    decide
  refine Shape.admits_of_covers (newline_notMem_render b n) ?_
  rw [render_eq, hcr]
  exact covers_minus _ (fun before => hcr ▸ h before) hc

/-- The shape of a rendering with a mark. -/
theorem admits_render_marked {src : Text} {l : Char} {admits : Char → Bool}
    (hmark : mark b = ['0', l]) (h : ∀ d ∈ List.range b.val,
      admits (if b.val = 16 then (digitChar d).toUpper else digitChar d)) :
    (Shape.mk src [minus, .exactly '0', .exactly l, .some admits]).admits (render b n) := by
  refine admits_render fun before => ?_
  rw [hmark]
  exact .exactly (.exactly (covers_some (forall_mem_shownDigits h _)
    (Radix.shownDigits_ne_nil b _) _))

theorem hexShape_admits (n : Int) : hexShape.admits (Radix.toHex n) :=
  admits_render_marked rfl (by decide)

theorem binShape_admits (n : Int) : binShape.admits (Radix.toBin n) :=
  admits_render_marked rfl (by decide)

theorem octShape_admits (n : Int) : octShape.admits (Radix.toOct n) :=
  admits_render_marked rfl (by decide)

theorem decShape_admits (n : Int) : decShape.admits (Radix.toDec n) :=
  admits_render fun before => covers_some (s := shownDigits .ten n.natAbs)
    (forall_mem_shownDigits (by decide) _) (Radix.shownDigits_ne_nil .ten _) before

theorem targetShape_admits (b : Base) (n : Int) : targetShape.admits (render b n) :=
  admits_render fun before => covers_some (isAlphanum_of_mem_body b _)
    (List.append_ne_nil_of_right_ne_nil _ (Radix.shownDigits_ne_nil b _)) before

/-! ## Conversions -/

/-- The texts of a conversion stand under their names. -/
def HasMembers (c : Conversion) (j : Json) : Prop :=
  j.member? "hex".toList = some (.text c.hex) ∧
  j.member? "dec".toList = some (.text c.dec) ∧
  j.member? "bin".toList = some (.text c.bin) ∧
  j.member? "oct".toList = some (.text c.oct) ∧
  j.member? "first".toList = c.first.map .text

/-- The member of a conversion's payload with a name. -/
theorem member?_ofConversion (c : Conversion) : HasMembers c (ofConversion c) := by
  obtain ⟨hex, dec, bin, oct, first⟩ := c
  cases first <;> exact ⟨rfl, rfl, rfl, rfl, rfl⟩

/-- The payload of a conversion meets its contract if its texts have their shapes. -/
theorem check_ofConversion {c : Conversion} (hhex : hexShape.admits c.hex)
    (hdec : decShape.admits c.dec) (hbin : binShape.admits c.bin) (hoct : octShape.admits c.oct)
    (hfirst : ∀ t, c.first = some t → targetShape.admits t) :
    check conversionResult.schema (ofConversion c) = [] := by
  obtain ⟨mhex, mdec, mbin, moct, mfirst⟩ := member?_ofConversion c
  have hshaped : ∀ {sh : Shape} {t : Text}, sh.admits t → check (shaped sh) (.text t) = [] :=
    fun h => check_text_eq_nil.2 ⟨Nat.zero_le _, by rintro _ ⟨⟩; exact h⟩
  have hpresent : ∀ {sh : Shape} {name t : Text}, sh.admits t →
      (ofConversion c).member? name = some (.text t) →
      (∀ v, (ofConversion c).member? name = some v → check (shaped sh) v = []) ∧
        ((ofConversion c).member? name = none → true = false) := by
    intro sh name t h hmember
    rw [hmember]
    refine ⟨?_, nofun⟩
    rintro _ ⟨⟩
    exact hshaped h
  refine check_record_eq_nil.2 ⟨fun m hm => ?_, ?_⟩
  · -- every member has one of the five names
    have hname :
        m.1 ∈ ["hex".toList, "dec".toList, "bin".toList, "oct".toList, "first".toList] := by
      cases hc : c.first <;> simp only [hc] at hm <;> grind
    exact List.mem_map.1 hname
  · refine List.forall_mem_cons.2 ⟨hpresent hhex mhex, List.forall_mem_cons.2 ⟨hpresent hdec mdec,
      List.forall_mem_cons.2 ⟨hpresent hbin mbin, List.forall_mem_cons.2 ⟨hpresent hoct moct,
        List.forall_mem_singleton.2 ⟨fun v hv => ?_, fun _ => rfl⟩⟩⟩⟩⟩
    obtain ⟨t, ht, rfl⟩ := Option.map_eq_some_iff.1 (mfirst.symm.trans hv)
    exact hshaped (hfirst t ht)

/-- The conversion of an integer meets the contract, with and without a target. -/
theorem check_ofInt (n : Int) (target : Option Base) :
    check conversionResult.schema (ofConversion (.ofInt n target)) = [] := by
  refine check_ofConversion (hexShape_admits n) (decShape_admits n) (binShape_admits n)
    (octShape_admits n) fun t ht => ?_
  obtain ⟨b, -, rfl⟩ := Option.map_eq_some_iff.1 ht
  exact targetShape_admits b n

/-- A conversion is built from its members, wherever they stand. -/
theorem readConversion_of_hasMembers {c : Conversion} {j : Json} (hmembers : HasMembers c j)
    (h : hexShape.admits c.hex) : readConversion j = .ok c := by
  obtain ⟨mhex, mdec, mbin, moct, mfirst⟩ := hmembers
  obtain ⟨hex, dec, bin, oct, first⟩ := c
  have hread : readHex (.text hex) = .ok hex := by
    rw [readHex, readText]
    exact if_pos h
  simp only [readConversion, member, memberOr, mhex, mdec, mbin, moct, mfirst, hread, readText]
  cases first <;> rfl

theorem readConversion_ofConversion {c : Conversion} (h : hexShape.admits c.hex) :
    readConversion (ofConversion c) = .ok c :=
  readConversion_of_hasMembers (member?_ofConversion c) h

/-! ## Reports -/

/-- One line of a report as a payload. -/
def ofItem (i : Item) : Json :=
  .object [("label".toList, .text i.label), ("description".toList, .text i.description)]

/-- A report meets its contract if it has a line and no label is empty. -/
theorem check_ofItems {items : List Item} (hne : items ≠ []) (h : ∀ i ∈ items, i.label ≠ []) :
    check resultItems.schema (ofItems items) = [] := by
  refine check_sequence_eq_nil.2 ⟨?_, fun v hv => ?_⟩
  · rw [List.length_map]
    exact List.length_pos_iff.2 hne
  obtain ⟨i, hi, rfl⟩ := List.mem_map.1 hv
  have htext : ∀ {least : Nat} {t : Text}, least ≤ t.length →
      check (.text none least) (.text t) = [] := fun h => check_text_eq_nil.2 ⟨h, nofun⟩
  refine check_record_eq_nil.2 ⟨fun m hm => ?_, ?_⟩
  · have hname : m.1 ∈ ["label".toList, "description".toList] := by
      grind
    exact List.mem_map.1 hname
  · refine List.forall_mem_cons.2 ⟨⟨?_, nofun⟩, List.forall_mem_singleton.2 ⟨?_, nofun⟩⟩
    · rintro _ ⟨⟩
      exact htext (List.length_pos_iff.2 (h i hi))
    · rintro _ ⟨⟩
      exact htext (Nat.zero_le _)

theorem readItem_ofItem {i : Item} (h : i.label ≠ []) : readItem (ofItem i) = .ok i := by
  obtain ⟨c, r, hcr⟩ := List.exists_cons_of_ne_nil h
  have hlabel : readLabel (.text i.label) = .ok i.label := by
    rw [hcr]
    rfl
  obtain ⟨label, description⟩ := i
  have hmember : (ofItem ⟨label, description⟩).member? "label".toList = some (.text label) ∧
      (ofItem ⟨label, description⟩).member? "description".toList = some (.text description) :=
    ⟨rfl, rfl⟩
  simp only [readItem, member, memberOr, hmember.1, hmember.2]
  dsimp only at hlabel
  rw [hlabel]
  rfl

end Payload

namespace Decimal

theorem positional_ne_nil (ds : List Char) (k : Int) : positional ds k ≠ [] := by
  rw [positional]
  split
  · simp
  split <;> simp

theorem scientific_ne_nil (ds : List Char) (k : Int) : scientific ds k ≠ [] := by
  simp [scientific, exponentText]

/-- Every double has a text. -/
theorem shown_ne_nil (x : Float) : shown x ≠ [] := by
  rw [shown]
  split
  · simp
  refine List.append_ne_nil_of_right_ne_nil _ ?_
  split
  · rw [shownMagnitude]
    split
    · simp
    dsimp only
    split
    · exact positional_ne_nil _ _
    · exact scientific_ne_nil _ _
  · simp

end Decimal

namespace Report

/-- A report has a line, and no label in it is empty. -/
structure IsFilled (items : List Item) : Prop where
  ne_nil : items ≠ []
  label : ∀ i ∈ items, i.label ≠ []

theorem isFilled_wholeItems (n : Int) : IsFilled (wholeItems n) := by
  refine ⟨by simp [wholeItems], fun i hi => ?_⟩
  simp only [wholeItems, List.mem_cons, List.not_mem_nil, or_false] at hi
  rcases hi with rfl | rfl | rfl | rfl <;> exact Radix.render_ne_nil _ n

theorem number_ne_nil (x : Float) : number x ≠ [] := by
  rw [number]
  split
  · exact Radix.render_ne_nil _ _
  · exact Decimal.shown_ne_nil x

theorem isFilled_ofFloat (x : Float) : IsFilled (ofFloat x) := by
  rw [ofFloat]
  split
  · exact isFilled_wholeItems _
  · refine ⟨by simp, fun i hi => ?_⟩
    obtain rfl := List.mem_singleton.1 hi
    exact number_ne_nil x

theorem isFilled_ofConversion (n : Int) (target : Option Base) :
    IsFilled (ofConversion (.ofInt n target)) := by
  refine ⟨by simp [ofConversion], fun i hi => ?_⟩
  rw [ofConversion, List.mem_append] at hi
  rcases hi with hi | hi
  · cases target with
    | none => cases hi
    | some b =>
      obtain rfl := List.mem_singleton.1 hi
      exact Radix.render_ne_nil b n
  · simp only [List.mem_cons, List.not_mem_nil, or_false] at hi
    rcases hi with rfl | rfl | rfl | rfl <;> exact Radix.render_ne_nil _ n

/-- Whatever a pipeline reports is filled. -/
theorem isFilled_of_run {cfg : Limits} {k : Kind} {items : List Item}
    (h : run cfg k s = .ok items) : IsFilled items := by
  cases k with
  | numeral =>
    rw [run] at h
    cases hc : Conversion.ofText s with
    | error f =>
      rw [hc] at h
      cases h
    | ok c =>
      rw [hc] at h
      cases h
      obtain ⟨n, target, rfl⟩ := Conversion.exists_ofInt_of_ofText hc
      exact isFilled_ofConversion n target
  | expression =>
    rw [run] at h
    split at h
    · cases h
      exact isFilled_ofFloat _
    · cases h
  | ignored => cases h

end Report

namespace CommandLine

variable {cfg : Limits} {k : Kind} {items : List Item}

theorem check_of_conversion? {c : Conversion} (h : conversion? k s = some c) :
    Payload.check Payload.conversionResult.schema (Payload.ofConversion c) = [] := by
  cases k with
  | numeral =>
    rw [conversion?] at h
    cases hc : Conversion.ofText s with
    | error f =>
      rw [hc] at h
      cases h
    | ok d =>
      rw [hc] at h
      cases h
      obtain ⟨n, target, rfl⟩ := Conversion.exists_ofInt_of_ofText hc
      exact Payload.check_ofInt n target
  | expression => cases h
  | ignored => cases h

theorem check_of_run (h : run cfg k s = .ok items) :
    Payload.check Payload.resultItems.schema (Payload.ofItems items) = [] :=
  Payload.check_ofItems (Report.isFilled_of_run h).ne_nil (Report.isFilled_of_run h).label

/-- The parts of a payload meet their contracts. -/
theorem meetsContracts_of_run (h : run cfg k s = .ok items) : meetsContracts k s items := by
  rw [meetsContracts, check_of_run h, Bool.and_eq_true]
  refine ⟨rfl, ?_⟩
  rw [Option.all_eq_true]
  intro c hc
  rw [check_of_conversion? hc]
  rfl

theorem answer_of_run (h : run cfg k s = .ok items) (json verbose : Bool) :
    ∃ err, answer cfg k s json verbose =
      .output ⟨0, if json then lines [(payload k s items).pretty] else plain items, err⟩ := by
  rw [answer, h]
  dsimp only
  rw [meetsContracts_of_run h]
  cases json with
  | false => exact ⟨_, rfl⟩
  | true => exact ⟨_, rfl⟩

theorem answer_ne_contractBroken (cfg : Limits) (k : Kind) (s : Text) (json verbose : Bool) :
    answer cfg k s json verbose ≠ .contractBroken := by
  cases hrun : run cfg k s with
  | ok items =>
    obtain ⟨err, h⟩ := answer_of_run hrun json verbose
    rw [h]
    exact nofun
  | error f =>
    rw [answer, hrun]
    dsimp only
    split <;> exact nofun

theorem perform_ne_contractBroken (r : Request) : perform r ≠ .contractBroken := by
  rw [perform]
  split
  · exact answer_ne_contractBroken _ _ _ _ _
  · exact answer_ne_contractBroken _ _ _ _ _
  split
  · exact nofun
  split
  · exact nofun
  · exact answer_ne_contractBroken _ _ _ _ _

/-- What a pipeline reports meets the contract of reports, the conversion that goes with it meets
the contract of conversions, and the payload of both is written.  Every numeral has a conversion,
which can be built from its own payload again and has a target rendering just where there is a
target. -/
theorem payloads_meet_contracts :
    (∀ (cfg : Limits) (k : Kind) (s : Text) (items : List Item), run cfg k s = .ok items →
      Payload.check Payload.resultItems.schema (Payload.ofItems items) = [] ∧
      (∀ i ∈ items, Payload.readItem (Payload.ofItem i) = .ok i) ∧
      (∀ c, conversion? k s = some c →
        Payload.check Payload.conversionResult.schema (Payload.ofConversion c) = []) ∧
      ∀ verbose, ∃ err, answer cfg k s true verbose =
        .output ⟨0, lines [(payload k s items).pretty], err⟩) ∧
    (∀ (s : Text) (n : Numeral), Numeral.ofText s = .ok n → ∃ c, Conversion.ofText s = .ok c ∧
      Payload.readConversion (Payload.ofConversion c) = .ok c ∧
      Payload.check Payload.conversionResult.schema (Payload.ofConversion c) = [] ∧
      (((Payload.ofConversion c).member? "first".toList).isSome ↔ n.target.isSome) ∧
      Payload.check Payload.resultItems.schema (Payload.ofItems (Report.ofConversion c)) = []) ∧
    ∀ r : Request, perform r ≠ .contractBroken := by
  refine ⟨?_, ?_, perform_ne_contractBroken⟩
  · intro cfg k s items hrun
    have hlabel := (Report.isFilled_of_run hrun).label
    exact ⟨check_of_run hrun, fun i hi => Payload.readItem_ofItem (hlabel i hi),
      fun c hc => check_of_conversion? hc, answer_of_run hrun true⟩
  · intro s n hn
    have hfilled := Report.isFilled_ofConversion n.value n.target
    refine ⟨.ofInt n.value n.target, ?_, ?_, Payload.check_ofInt n.value n.target, ?_,
      Payload.check_ofItems hfilled.ne_nil hfilled.label⟩
    · rw [Conversion.ofText, hn]
      rfl
    · exact Payload.readConversion_ofConversion (Payload.hexShape_admits n.value)
    · rw [(Payload.member?_ofConversion _).2.2.2.2, Option.isSome_map, Conversion.ofInt,
        Option.isSome_map]

/-- The base of a target, and the conversion of a negative numeral that names it. -/
def thirtySix : Base := .clamp 36

def targeted : Conversion := .ofInt (-255) (some thirtySix)

/-- The payload of a negative numeral with a target has the target rendering in front. -/
theorem payloads_meet_contracts_target :
    Numeral.ofText "16#-fF to 36".toList = .ok ⟨-255, .sixteen, .radixHash, some thirtySix⟩ ∧
    run {} .numeral "16#-fF to 36".toList = .ok (Report.ofConversion targeted) ∧
    conversion? .numeral "16#-fF to 36".toList = some targeted ∧
    Payload.readItem (Payload.ofItem ⟨"-73".toList, "Target".toList⟩) =
      .ok ⟨"-73".toList, "Target".toList⟩ ∧
    Payload.check Payload.conversionResult.schema (Payload.ofConversion targeted) = [] ∧
    (∃ err, answer {} .numeral "16#-fF to 36".toList true false = .output ⟨0, lines
      [(payload .numeral "16#-fF to 36".toList (Report.ofConversion targeted)).pretty], err⟩) ∧
    Payload.readConversion (Payload.ofConversion targeted) = .ok targeted := by
  have hnumeral : Numeral.ofText "16#-fF to 36".toList =
      .ok ⟨-255, .sixteen, .radixHash, some thirtySix⟩ := rfl
  have hc : Conversion.ofText "16#-fF to 36".toList = .ok targeted := by
    rw [Conversion.ofText, hnumeral]
    rfl
  have hrun : run {} .numeral "16#-fF to 36".toList = .ok (Report.ofConversion targeted) := by
    rw [run, hc]
    rfl
  have hconversion : conversion? .numeral "16#-fF to 36".toList = some targeted := by
    rw [conversion?, hc]
    rfl
  have hmem : (⟨"-73".toList, "Target".toList⟩ : Item) ∈ Report.ofConversion targeted := by
    have hfirst : targeted.first = some "-73".toList := by decide +kernel
    rw [Report.ofConversion, hfirst]
    exact List.mem_cons_self
  obtain ⟨-, hitems, hchecks, hanswer⟩ := payloads_meet_contracts.1 {} .numeral _ _ hrun
  obtain ⟨c, hc', hread, -⟩ := payloads_meet_contracts.2.1 _ _ hnumeral
  obtain rfl : targeted = c := Except.ok.inj (hc.symm.trans hc')
  exact ⟨hnumeral, hrun, hconversion, hitems _ hmem, hchecks _ hconversion, hanswer false, hread⟩

end CommandLine

end Abacus
