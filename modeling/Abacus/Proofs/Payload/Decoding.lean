import Abacus.Proofs.Payload.Conformance
import Mathlib.Data.List.Nodup

/-!
# Conversions from payloads

Of an object it only matters which member stands under which name, and not in what order.  A value
meets the contract of conversions just when a conversion whose texts have their shapes is built from
it and the payload of that conversion is the same object again.
-/

namespace Abacus

variable {s : Text} {ms ns : List (Text × Json)}

/-! ## Objects -/

namespace Json

/-- Objects are alike if they have the same member under every name. -/
def Alike : Json → Json → Prop
  | .object ms, .object ns => ∀ name, ms.lookup name = ns.lookup name
  | _, _ => False

theorem exists_lookup_of_mem {m : Text × Json} (h : m ∈ ms) : ∃ v, ms.lookup m.1 = some v :=
  Option.isSome_iff_exists.1 (List.lookup_isSome_iff.2 ⟨m, h, beq_self_eq_true _⟩)

theorem mem_of_lookup {v : Json} (h : ms.lookup s = some v) : (s, v) ∈ ms := by
  obtain ⟨xs, ys, rfl, -⟩ := List.lookup_eq_some_iff.1 h
  simp

/-- Where no name occurs twice, every member is found under its name. -/
theorem lookup_eq_some_iff_mem (hms : (ms.map Prod.fst).Nodup) {v : Json} :
    ms.lookup s = some v ↔ (s, v) ∈ ms := by
  refine ⟨mem_of_lookup, fun h => ?_⟩
  obtain ⟨w, hw⟩ := exists_lookup_of_mem h
  have hsame : (s, w) = (s, v) := List.inj_on_of_nodup_map hms (mem_of_lookup hw) h rfl
  rw [hw, (Prod.mk.inj hsame).2]

/-- Where no name occurs twice, alike objects have the same members in some order. -/
theorem Alike.perm (h : (Json.object ms).Alike (.object ns)) (hms : (ms.map Prod.fst).Nodup)
    (hns : (ns.map Prod.fst).Nodup) : ms.Perm ns := by
  rw [List.perm_ext_iff_of_nodup hms.of_map hns.of_map]
  rintro ⟨name, v⟩
  rw [← lookup_eq_some_iff_mem hms, ← lookup_eq_some_iff_mem hns, h name]

/-- A name of one of two alike objects is a name of the other. -/
theorem Alike.exists_mem (h : (Json.object ms).Alike (.object ns)) {m : Text × Json}
    (hm : m ∈ ns) : ∃ n ∈ ms, n.1 = m.1 := by
  obtain ⟨v, hv⟩ := exists_lookup_of_mem hm
  exact ⟨_, mem_of_lookup ((h m.1).trans hv), rfl⟩

end Json

namespace Payload

open Json (Alike)

variable {sh : Shape} {c : Conversion} {d : Json}

/-! ## What meets a contract -/

theorem exists_object_of_check {defs : List (Text × Bool × Schema)}
    (h : check (.record defs) d = []) : ∃ ms, d = .object ms := by
  cases d with
  | object ms => exact ⟨ms, rfl⟩
  | _ => cases h

theorem exists_text_of_check (h : check (shaped sh) d = []) : ∃ t, d = .text t ∧ sh.admits t := by
  cases d with
  | text t => exact ⟨t, rfl, (check_text_eq_nil.1 h).2 sh rfl⟩
  | _ => cases h

/-- Whether an object meets the schema of a record is a matter of what stands under its names. -/
theorem check_of_alike {defs : List (Text × Bool × Schema)}
    (halike : (Json.object ms).Alike (.object ns)) (h : check (.record defs) (.object ms) = []) :
    check (.record defs) (.object ns) = [] := by
  obtain ⟨hnames, hdefs⟩ := check_record_eq_nil.1 h
  refine check_record_eq_nil.2 ⟨fun m hm => ?_, fun d hd => ?_⟩
  · obtain ⟨n, hn, hname⟩ := halike.exists_mem hm
    rw [← hname]
    exact hnames n hn
  · rw [← halike d.1]
    exact hdefs d hd

/-- What a record asks for is a text of the shape. -/
theorem exists_text_of_required {name : Text}
    (h : (∀ v, ms.lookup name = some v → check (shaped sh) v = []) ∧
      (ms.lookup name = none → true = false)) :
    ∃ t, ms.lookup name = some (.text t) ∧ sh.admits t := by
  cases hv : ms.lookup name with
  | none => cases h.2 hv
  | some v =>
    obtain ⟨t, rfl, ht⟩ := exists_text_of_check (h.1 v hv)
    exact ⟨t, rfl, ht⟩

/-- What a record does not ask for is a text of the shape if it is there. -/
theorem exists_text_of_optional {name : Text}
    (h : ∀ v, ms.lookup name = some v → check (shaped sh) v = []) :
    ∃ o : Option Text, ms.lookup name = o.map .text ∧ ∀ t, o = some t → sh.admits t := by
  cases hv : ms.lookup name with
  | none => exact ⟨none, rfl, nofun⟩
  | some v =>
    obtain ⟨t, rfl, ht⟩ := exists_text_of_check (h v hv)
    refine ⟨some t, rfl, ?_⟩
    rintro _ ⟨⟩
    exact ht

/-! ## The contract of conversions -/

/-- The texts of a conversion have the shapes that its contract asks for. -/
structure HasShapes (c : Conversion) : Prop where
  hex : hexShape.admits c.hex
  dec : decShape.admits c.dec
  bin : binShape.admits c.bin
  oct : octShape.admits c.oct
  first : ∀ t, c.first = some t → targetShape.admits t

theorem HasShapes.check (h : HasShapes c) : check conversionResult.schema (ofConversion c) = [] :=
  check_ofConversion h.hex h.dec h.bin h.oct h.first

/-- What meets the contract has the members of a conversion. -/
theorem exists_hasMembers_of_check (h : check conversionResult.schema d = []) :
    ∃ c, HasMembers c d ∧ HasShapes c := by
  obtain ⟨ms, rfl⟩ := exists_object_of_check h
  have hdefs := (check_record_eq_nil.1 h).2
  simp only [List.forall_mem_cons] at hdefs
  obtain ⟨hhex, hdec, hbin, hoct, hfirst, -⟩ := hdefs
  obtain ⟨hex, mhex, hhex⟩ := exists_text_of_required hhex
  obtain ⟨dec, mdec, hdec⟩ := exists_text_of_required hdec
  obtain ⟨bin, mbin, hbin⟩ := exists_text_of_required hbin
  obtain ⟨oct, moct, hoct⟩ := exists_text_of_required hoct
  obtain ⟨first, mfirst, hfirst⟩ := exists_text_of_optional hfirst.1
  exact ⟨⟨hex, dec, bin, oct, first⟩, ⟨mhex, mdec, mbin, moct, mfirst⟩,
    ⟨hhex, hdec, hbin, hoct, hfirst⟩⟩

theorem mem_names_of_check (h : check conversionResult.schema (.object ms) = []) :
    ∀ m ∈ ms, m.1 ∈ ["hex".toList, "dec".toList, "bin".toList, "oct".toList, "first".toList] := by
  intro m hm
  exact List.mem_map.2 ((check_record_eq_nil.1 h).1 m hm)

/-- Objects that meet the contract and have the members of one conversion are alike. -/
theorem alike_of_hasMembers (hms : check conversionResult.schema (.object ms) = [])
    (hns : check conversionResult.schema (.object ns) = []) (h : HasMembers c (.object ms))
    (h' : HasMembers c (.object ns)) : (Json.object ms).Alike (.object ns) := by
  intro name
  obtain ⟨mhex, mdec, mbin, moct, mfirst⟩ := h
  obtain ⟨nhex, ndec, nbin, noct, nfirst⟩ := h'
  have habsent : ∀ {ls : List (Text × Json)}, check conversionResult.schema (.object ls) = [] →
      name ∉ ["hex".toList, "dec".toList, "bin".toList, "oct".toList, "first".toList] →
      ls.lookup name = none := by
    intro ls hls hname
    rw [Option.eq_none_iff_forall_ne_some]
    intro v hv
    exact hname (mem_names_of_check hls _ (Json.mem_of_lookup hv))
  by_cases hname : name ∈ ["hex".toList, "dec".toList, "bin".toList, "oct".toList, "first".toList]
  · simp only [List.mem_cons, List.not_mem_nil, or_false] at hname
    obtain rfl | rfl | rfl | rfl | rfl := hname
    · exact mhex.trans nhex.symm
    · exact mdec.trans ndec.symm
    · exact mbin.trans nbin.symm
    · exact moct.trans noct.symm
    · exact mfirst.trans nfirst.symm
  · rw [habsent hms hname, habsent hns hname]

/-- The payload of a conversion is an object in which no name occurs twice. -/
theorem exists_ofConversion (c : Conversion) :
    ∃ ps, ofConversion c = .object ps ∧ (ps.map Prod.fst).Nodup := by
  refine ⟨_, rfl, ?_⟩
  cases c.first with
  | none => exact (by decide : ["hex".toList, "dec".toList, "bin".toList, "oct".toList].Nodup)
  | some t =>
    exact (by decide :
      ["hex".toList, "dec".toList, "bin".toList, "oct".toList, "first".toList].Nodup)

/-- What meets the contract of conversions is just what a conversion with texts of the five shapes
can be built from, in such a way that the payload of the conversion is the same object again: its
members may stand in another order, and there is a target rendering where there was one. -/
theorem meets_conversionResult_iff : check conversionResult.schema d = [] ↔
    ∃ c, HasShapes c ∧ readConversion d = .ok c ∧ (ofConversion c).Alike d ∧
      (((ofConversion c).member? "first".toList).isSome ↔ (d.member? "first".toList).isSome) ∧
      ∀ ms, d = .object ms → (ms.map Prod.fst).Nodup →
        ∃ ps, ofConversion c = .object ps ∧ ps.Perm ms := by
  constructor
  · intro h
    obtain ⟨c, hmembers, hshapes⟩ := exists_hasMembers_of_check h
    obtain ⟨ms, rfl⟩ := exists_object_of_check h
    obtain ⟨ps, hps, hnodup⟩ := exists_ofConversion c
    have hpayload : check conversionResult.schema (.object ps) = [] := hps ▸ hshapes.check
    have hmembers' : HasMembers c (.object ps) := hps ▸ member?_ofConversion c
    have halike := alike_of_hasMembers hpayload h hmembers' hmembers
    refine ⟨c, hshapes, readConversion_of_hasMembers hmembers hshapes.hex, hps ▸ halike, ?_, ?_⟩
    · rw [hps]
      exact iff_of_eq (congrArg (fun o => o.isSome = true) (halike "first".toList))
    · rintro _ ⟨⟩ hms
      exact ⟨ps, hps, halike.perm hnodup hms⟩
  · rintro ⟨c, hshapes, -, halike, -, -⟩
    obtain ⟨ps, hps, -⟩ := exists_ofConversion c
    rw [hps] at halike
    cases d with
    | object ms => exact check_of_alike halike (hps ▸ hshapes.check)
    | _ => cases halike

/-- A payload with its members in another order and a line break behind one of its texts. -/
def reordered : List (Text × Json) :=
  [("first".toList, .text "-7z".toList), ("oct".toList, .text "-0o437".toList),
    ("hex".toList, .text "-0x11F\n".toList), ("dec".toList, .text "-287".toList),
    ("bin".toList, .text "-0b100011111".toList)]

/-- The line break is kept, and so is the target rendering. -/
theorem meets_conversionResult_iff_reordered :
    check conversionResult.schema (.object reordered) = [] ∧ (reordered.map Prod.fst).Nodup ∧
    ∃ c ps, readConversion (.object reordered) = .ok c ∧ ofConversion c = .object ps ∧
      ps.Perm reordered := by
  have hcheck : check conversionResult.schema (.object reordered) = [] := by decide +kernel
  have hnodup : (reordered.map Prod.fst).Nodup := by decide
  obtain ⟨c, -, hread, -, -, hperm⟩ := meets_conversionResult_iff.1 hcheck
  obtain ⟨ps, hps, hperm⟩ := hperm reordered rfl hnodup
  exact ⟨hcheck, hnodup, c, ps, hread, hps, hperm⟩

end Payload

end Abacus
