import Abacus.Payload.Catalogue
import Abacus.Proofs.Payload.Decoding
import Mathlib.Data.List.Perm.Subperm

/-!
# Loading schemas

A document is loaded if a path leads to it, it can be read, and nothing is wrong with it as a
schema.  Of an object in which no name occurs twice, that is said member by member.  The document of
a schema is then a schema itself just when its patterns can be used and no record asks for a name
twice.

The documents of the two contracts are schemas.  So in the bundled catalogue every name leads to one
of them or leads nowhere, and a document that is found is never refused.
-/

namespace Abacus.Payload

namespace Metaschema

variable {ms : List (Text × Json)} {ss : List Text}

/-! ## Members -/

/-- What is wrong with the value of a member, whose name may be that of a keyword. -/
def formFindings : Option Form → Json → List Finding
  | none, _ => []
  | some .schema, v => findings v
  | some .schemas, v => listFindings v
  | some .schemaMap, v => mapFindings v
  | some .patternMap, v => mapFindings v ++ nameFindings v
  | some .dependencies, v => dependenciesFindings v
  | some .pattern, v => match v with
    | .text s => patternFindings s
    | _ => [.violation]
  | some (.plain holds), v => violationUnless (holds v)

theorem memberFindings_eq_map (ms : List (Text × Json)) : memberFindings ms =
    ms.map fun m => (m.1, formFindings (keywords.lookup m.1) m.2) := by
  induction ms with
  | nil => rfl
  | cons m ms ih =>
    obtain ⟨name, v⟩ := m
    rw [memberFindings.eq_def]
    simp only [ih, List.map_cons]
    congr 2
    cases keywords.lookup name with
    | none => rfl
    | some form => cases form <;> rfl

theorem lookup_map_member {β : Type} (f : Text → Json → β) (ms : List (Text × Json)) (name : Text) :
    (ms.map fun m => (m.1, f m.1 m.2)).lookup name = (ms.lookup name).map (f name) := by
  induction ms with
  | nil => rfl
  | cons m ms ih =>
    rw [List.map_cons, List.lookup_cons, List.lookup_cons, ih]
    cases h : name == m.1 with
    | false => rfl
    | true =>
      rw [beq_iff_eq.1 h]
      rfl

/-- Nothing is wrong with an object if nothing is wrong with its members. -/
theorem findings_object_eq_nil (hms : (ms.map Prod.fst).Nodup) : findings (.object ms) = [] ↔
    ∀ m ∈ ms, formFindings (keywords.lookup m.1) m.2 = [] := by
  rw [findings, memberFindings_eq_map, inOrder, List.flatMap_eq_nil_iff]
  simp only [lookup_map_member fun name => formFindings (keywords.lookup name)]
  constructor
  · intro h m hm
    cases hform : keywords.lookup m.1 with
    | none => rfl
    | some form =>
      obtain ⟨xs, ys, hkeywords, -⟩ := List.lookup_eq_some_iff.1 hform
      have hk := h (m.1, form) (by rw [hkeywords]; simp)
      rw [(Json.lookup_eq_some_iff_mem hms).2 hm, hform] at hk
      exact hk
  · intro h k _
    cases hv : ms.lookup k.1 with
    | none => rfl
    | some v => exact h _ (Json.mem_of_lookup hv)

theorem violationUnless_eq_nil {holds : Bool} : violationUnless holds = [] ↔ holds := by
  cases holds <;> simp [violationUnless]

theorem patternFindings_eq_nil {s : Text} : patternFindings s = [] ↔ Regex.check s = .ok () := by
  cases h : Regex.check s with
  | ok => simp [patternFindings, h]
  | error f => cases f <;> simp [patternFindings, h]

/-! ## Sets of texts -/

theorem nodup_eraseDups (ss : List Text) : ss.eraseDups.Nodup := by
  cases ss with
  | nil => simp
  | cons s ss =>
    rw [List.eraseDups_cons, List.nodup_cons]
    exact ⟨by simp [List.mem_eraseDups], nodup_eraseDups _⟩
termination_by ss.length
decreasing_by
  have := List.length_filter_le (fun t => !t == s) ss
  rw [List.length_cons]
  omega

theorem length_eraseDups_eq_iff : ss.eraseDups.length = ss.length ↔ ss.Nodup := by
  have hsub : ss.eraseDups.Subperm ss :=
    (nodup_eraseDups ss).subperm fun _ => List.mem_eraseDups.1
  constructor
  · intro h
    exact (hsub.perm_of_length_le h.ge).nodup_iff.1 (nodup_eraseDups ss)
  · intro h
    exact hsub.length_le.antisymm (h.subperm fun _ => List.mem_eraseDups.2).length_le

theorem texts?_map_text (ss : List Text) : texts? (.list (ss.map .text)) = some ss := by
  rw [texts?]
  induction ss with
  | nil => rfl
  | cons s ss ih =>
    rw [List.map_cons, List.mapM_cons, ih]
    rfl

theorem isTextSet_map_text : isTextSet (.list (ss.map .text)) ↔ ss.Nodup := by
  rw [isTextSet, texts?_map_text, ← length_eraseDups_eq_iff]
  exact beq_iff_eq

/-! ## Documents of schemas -/

/-- The patterns of the schema can be used, and no record asks for a name twice. -/
inductive WellFormed : Schema → Prop
  | text (shape : Option Shape) (minLength : Nat)
      (hshape : ∀ sh ∈ shape, Regex.check sh.source = .ok ()) : WellFormed (.text shape minLength)
  | record (defs : List (Text × Bool × Schema))
      (hrequired : ((defs.filter (·.2.1)).map (·.1)).Nodup)
      (hdefs : ∀ d ∈ defs, WellFormed d.2.2) : WellFormed (.record defs)
  | sequence (minItems : Nat) (item : Schema) (hitem : WellFormed item) :
      WellFormed (.sequence minItems item)

/-- The names of the members of a schema's document. -/
def descriptionNames : Schema → List Text
  | .text _ _ => ["type".toList, "pattern".toList, "minLength".toList]
  | .record _ => ["type".toList, "required".toList, "additionalProperties".toList,
      "properties".toList]
  | .sequence _ _ => ["type".toList, "minItems".toList, "items".toList]

variable {shape : Option Shape} {n : Nat} {defs : List (Text × Bool × Schema)} {schema : Schema}

theorem names_describe_sublist (schema : Schema) :
    ((describe schema).map Prod.fst).Sublist (descriptionNames schema) := by
  cases schema with
  | text shape n =>
    rw [describe.eq_def, descriptionNames]
    cases shape <;> by_cases hn : n = 0 <;>
      simp only [hn, reduceIte, List.map_append, List.map_cons, List.map_nil] <;> decide
  | record defs => exact List.Sublist.refl _
  | sequence n item => exact List.Sublist.refl _

theorem nodup_descriptionNames (schema : Schema) : (descriptionNames schema).Nodup := by
  cases schema <;> rw [descriptionNames] <;> decide

theorem nodup_names_describe (schema : Schema) : ((describe schema).map Prod.fst).Nodup :=
  (nodup_descriptionNames schema).sublist (names_describe_sublist schema)

theorem formFindings_plain {holds : Json → Bool} {v : Json} :
    formFindings (some (.plain holds)) v = [] ↔ holds v := violationUnless_eq_nil

theorem isType_text {name : Text} (h : name ∈ typeNames) : isType (.text name) :=
  List.contains_iff_mem.2 h

theorem isCount_int (n : Nat) : isCount (.int n) := decide_eq_true (Int.natCast_nonneg n)

theorem findings_describe_text : findings (.object (describe (.text shape n))) = [] ↔
    ∀ sh ∈ shape, Regex.check sh.source = .ok () := by
  have htype : keywords.lookup "type".toList = some (.plain isType) := rfl
  have hlength : keywords.lookup "minLength".toList = some (.plain isCount) := rfl
  have hpattern : keywords.lookup "pattern".toList = some .pattern := rfl
  have hstring : isType (.text "string".toList) := isType_text (by decide)
  rw [findings_object_eq_nil (nodup_names_describe _), describe.eq_def]
  cases shape <;> by_cases hn : n = 0 <;>
    simp only [hn, reduceIte, List.append_nil, List.cons_append, List.nil_append,
      List.forall_mem_cons, htype, hlength, hpattern, formFindings_plain, hstring, isCount_int]
  all_goals simp [formFindings, patternFindings_eq_nil]

theorem findings_describe_record : findings (.object (describe (.record defs))) = [] ↔
    ((defs.filter (·.2.1)).map (·.1)).Nodup ∧ valueFindings (describeMembers defs) = [] := by
  have htype : keywords.lookup "type".toList = some (.plain isType) := rfl
  have hrequired : keywords.lookup "required".toList = some (.plain isTextSet) := rfl
  have hclosed : keywords.lookup "additionalProperties".toList = some .schema := rfl
  have hproperties : keywords.lookup "properties".toList = some .schemaMap := rfl
  have hobject : isType (.text "object".toList) := isType_text (by decide)
  have hset := @isTextSet_map_text ((defs.filter (·.2.1)).map (·.1))
  rw [List.map_map] at hset
  rw [findings_object_eq_nil (nodup_names_describe _), describe]
  simp only [List.forall_mem_cons, htype, hrequired, hclosed, hproperties, formFindings_plain,
    hobject, ← hset]
  simp [formFindings, findings, mapFindings, Function.comp_def]

theorem findings_describe_sequence :
    findings (.object (describe (.sequence n schema))) = [] ↔
      findings (.object (describe schema)) = [] := by
  have htype : keywords.lookup "type".toList = some (.plain isType) := rfl
  have hlength : keywords.lookup "minItems".toList = some (.plain isCount) := rfl
  have hitems : keywords.lookup "items".toList = some .schema := rfl
  have harray : isType (.text "array".toList) := isType_text (by decide)
  rw [findings_object_eq_nil (nodup_names_describe _), describe]
  simp only [List.forall_mem_cons, htype, hlength, hitems, formFindings_plain, harray, isCount_int]
  simp [formFindings]

mutual

/-- A schema's document is a schema just when the schema is well-formed. -/
theorem findings_describe_eq_nil : (schema : Schema) →
    (findings (.object (describe schema)) = [] ↔ WellFormed schema)
  | .text shape n => by
      rw [findings_describe_text]
      exact ⟨.text shape n, fun | .text _ _ h => h⟩
  | .record defs => by
      rw [findings_describe_record, valueFindings_describeMembers_eq_nil defs]
      exact ⟨fun h => .record defs h.1 h.2, fun | .record _ h h' => ⟨h, h'⟩⟩
  | .sequence n item => by
      rw [findings_describe_sequence, findings_describe_eq_nil item]
      exact ⟨.sequence n item, fun | .sequence _ _ h => h⟩

theorem valueFindings_describeMembers_eq_nil : (defs : List (Text × Bool × Schema)) →
    (valueFindings (describeMembers defs) = [] ↔ ∀ d ∈ defs, WellFormed d.2.2)
  | [] => by simp [describeMembers, valueFindings]
  | (name, required, schema) :: defs => by
      rw [describeMembers, valueFindings, List.append_eq_nil_iff, List.forall_mem_cons,
        findings_describe_eq_nil schema, valueFindings_describeMembers_eq_nil defs]

end

/-- The names in front of those of a contract's schema. -/
def headerNames : List Text :=
  ["$schema".toList, "$id".toList, "title".toList, "description".toList]

theorem nodup_names_document {ms : List (Text × Json)} (hms : ms.map Prod.fst = headerNames)
    (schema : Schema) : ((ms ++ describe schema).map Prod.fst).Nodup := by
  rw [List.map_append, hms]
  refine List.Nodup.sublist ((names_describe_sublist schema).append_left headerNames) ?_
  cases schema <;> rw [descriptionNames] <;> decide

/-- A contract's document is a schema just when its identity is one and its schema is
well-formed. -/
theorem findings_document_eq_nil (c : Contract) :
    findings c.document = [] ↔ isIdentity (.text c.id) ∧ WellFormed c.schema := by
  have hschema : keywords.lookup "$schema".toList = some (.plain isText) := rfl
  have hid : keywords.lookup "$id".toList = some (.plain isIdentity) := rfl
  have htitle : keywords.lookup "title".toList = some (.plain isText) := rfl
  have hdescription : keywords.lookup "description".toList = some (.plain isText) := rfl
  rw [Contract.document, findings_object_eq_nil (nodup_names_document rfl c.schema),
    List.forall_mem_append, ← findings_object_eq_nil (nodup_names_describe c.schema),
    findings_describe_eq_nil]
  simp only [List.forall_mem_cons, hschema, hid, htitle, hdescription, formFindings_plain, isText]
  simp

end Metaschema

/-! ## Loading -/

namespace Catalogue

open Metaschema (WellFormed findings isIdentity objection?)

variable {c : Catalogue} {name : Text} {j : Json} {ks : List Contract}

theorem objection?_eq_none : objection? j = none ↔ findings j = [] := List.head?_eq_none_iff

/-- A document is loaded if it is found and read and nothing is wrong with it. -/
theorem load_eq_ok : c.load name = .ok j ↔
    ∃ src, c.find name = .ok src ∧ src.read = .ok j ∧ findings j = [] := by
  rw [load, ← objection?_eq_none]
  cases hfind : c.find name with
  | error e => exact ⟨nofun, nofun⟩
  | ok src =>
    simp only [Except.ok.injEq, exists_eq_left', bind, Except.bind]
    cases hread : src.read with
    | error e => exact ⟨nofun, nofun⟩
    | ok k =>
      simp only [Except.ok.injEq]
      constructor
      · intro h
        cases hk : objection? k with
        | none =>
          rw [hk] at h
          obtain rfl := Except.ok.inj h
          exact ⟨rfl, hk⟩
        | some f =>
          rw [hk] at h
          cases f <;> cases h
      · rintro ⟨rfl, hk⟩
        rw [hk]
        rfl

/-- What a path can lead to: the document whose name stands at its end, or nowhere. -/
inductive Leads (c : Catalogue) (ps : List Text) : Except LoadFault Source → Prop
  | document (p : Text) (src : Source) (hlast : ps.getLast? = some p)
      (hmem : (p, src) ∈ c.documents) : Leads c ps (.ok src)
  | notFound : Leads c ps (.error .notFound)
  | nameTooLong : Leads c ps (.error .nameTooLong)

theorem Leads.cons {ps : List Text} {r : Except LoadFault Source} (h : c.Leads ps r) (p : Text) :
    c.Leads (p :: ps) r := by
  cases h with
  | document q src hlast hmem =>
    refine .document q src ?_ hmem
    rw [List.getLast?_cons, hlast]
    rfl
  | notFound => exact .notFound
  | nameTooLong => exact .nameTooLong

theorem follow_leads (level : Nat) (ps : List Text) : c.Leads ps (c.follow level ps) := by
  fun_induction follow c level ps with
  | case1 => exact .notFound
  | case2 => exact .nameTooLong
  | case3 _ _ _ ih => exact ih.cons _
  | case4 p =>
    -- the path ends in the folder of the documents
    cases hp : c.documents.lookup p with
    | none => exact .notFound
    | some src =>
      obtain ⟨xs, ys, hdocuments, -⟩ := List.lookup_eq_some_iff.1 hp
      exact .document p src rfl (by simp [hdocuments])
  | case5 => exact .notFound
  | case6 _ _ _ _ _ _ ih => exact ih.cons _
  | case7 => exact .notFound

theorem find_leads (c : Catalogue) (name : Text) : c.Leads (pathNames name) (c.find name) := by
  rw [find]
  split
  · exact .notFound
  · split
    · exact .nameTooLong
    · exact follow_leads _ _

/-- The catalogue has the documents of some contracts under their names, and these are schemas. -/
def IsSound (c : Catalogue) (ks : List Contract) : Prop :=
  ∀ d ∈ c.documents, ∃ k ∈ ks, d = (k.id, .document k.document) ∧
    isIdentity (.text k.id) ∧ WellFormed k.schema

/-- What is found in a sound catalogue is not refused. -/
theorem IsSound.load_of_find (hc : c.IsSound ks) {p : Text} (hmem : (p, .document j) ∈ c.documents)
    (hfind : c.find name = .ok (.document j)) : c.load name = .ok j := by
  obtain ⟨k, -, hk, hwf⟩ := hc _ hmem
  cases hk
  exact load_eq_ok.2 ⟨_, hfind, rfl, (Metaschema.findings_document_eq_nil k).2 hwf⟩

/-- In a sound catalogue a name loads the document at the end of its path, or it leads nowhere. -/
theorem IsSound.load_cases (hc : c.IsSound ks) (name : Text) :
    (∃ k ∈ ks, (pathNames name).getLast? = some k.id ∧ c.load name = .ok k.document) ∨
      c.load name = .error .notFound ∨ c.load name = .error .nameTooLong := by
  have hleads := find_leads c name
  generalize hfind : c.find name = r at hleads
  cases hleads with
  | document p src hlast hmem =>
    obtain ⟨k, hk, hdocument, -⟩ := hc _ hmem
    obtain ⟨rfl, rfl⟩ := Prod.mk.inj hdocument
    exact .inl ⟨k, hk, hlast, hc.load_of_find hmem hfind⟩
  | notFound =>
    rw [load, hfind]
    exact .inr (.inl rfl)
  | nameTooLong =>
    rw [load, hfind]
    exact .inr (.inr rfl)

end Catalogue

/-! ## The bundled documents -/

open Metaschema (WellFormed)

theorem wellFormed_shaped {sh : Shape} (h : Regex.check sh.source = .ok ()) :
    WellFormed (shaped sh) := by
  refine .text _ _ ?_
  rintro _ ⟨⟩
  exact h

theorem wellFormed_conversionResult : WellFormed conversionResult.schema := by
  refine .record _ (by decide) ?_
  simp only [List.forall_mem_cons]
  refine ⟨wellFormed_shaped ?_, wellFormed_shaped ?_, wellFormed_shaped ?_, wellFormed_shaped ?_,
    wellFormed_shaped ?_, nofun⟩
  all_goals rfl

theorem wellFormed_resultItems : WellFormed resultItems.schema := by
  refine .sequence _ _ (.record _ (by decide) ?_)
  simp only [List.forall_mem_cons]
  exact ⟨.text _ _ nofun, .text _ _ nofun, nofun⟩

theorem bundled_isSound : bundled.IsSound [conversionResult, resultItems] := by
  intro d hd
  simp only [bundled, List.mem_cons, List.not_mem_nil, or_false] at hd
  obtain rfl | rfl := hd
  · exact ⟨conversionResult, by simp, rfl, by decide, wellFormed_conversionResult⟩
  · exact ⟨resultItems, by simp, rfl, by decide, wellFormed_resultItems⟩

/-- Every name loads the document of the contract that stands at the end of its path, or it leads
nowhere. -/
theorem load_bundled (name : Text) :
    (∃ k ∈ [conversionResult, resultItems], (pathNames name).getLast? = some k.id ∧
      bundled.load name = .ok k.document) ∨
      bundled.load name = .error .notFound ∨ bundled.load name = .error .nameTooLong :=
  bundled_isSound.load_cases name

/-- Both contracts' documents are there, under their identities without the ending. -/
theorem load_bundled_of_id {k : Contract} {name : Text} (hk : k ∈ [conversionResult, resultItems])
    (hname : name ++ ".json".toList = k.id) : bundled.load name = .ok k.document := by
  simp only [List.mem_cons, List.not_mem_nil, or_false] at hk
  obtain rfl | rfl := hk
  · obtain rfl : name = "conversion_result".toList := List.append_cancel_right hname
    exact bundled_isSound.load_of_find List.mem_cons_self rfl
  · obtain rfl : name = "result_items".toList := List.append_cancel_right hname
    exact bundled_isSound.load_of_find (List.mem_cons_of_mem _ List.mem_cons_self) rfl

end Abacus.Payload
