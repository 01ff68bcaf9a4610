import MacroPlatform.Report.FallbackContract

/-! # The content of a fallback section

A section of a materialized snapshot shows its facts, or the sources, or a few words. What it
shows is what the contract counts, and its references are those of its items.

* `SnapshotOf.content`: the content of every section;
* `ContentOf.item_factIds`, `ContentOf.item_sourceIds`: what its items refer to.
-/

namespace MacroPlatform.Report

open Daily

variable {w : Writing} {pydantic : Pydantic} {python : Python} {publishAt : Day → Instant}
variable {snapshot : ReportInputSnapshot Json} {body : SnapshotBody}
variable {policy : ReportDayPolicyResult}

/-! ## Facts as items -/

/-- A text of a fact. -/
def shownText (raw : Json) (key : String) : String := (raw.get key).toStr?.getD ""

/-- The characters that a fact takes in its section. -/
def shownLength (raw : Json) : ℕ :=
  (shownText raw "label").length + (shownText raw "display_text").length

/-- The item of a fact. -/
def shownItem (raw : Json) : Json :=
  .obj
    [("label", .str (shownText raw "label")), ("text", .str (shownText raw "display_text")),
      ("fact_ids", strings [shownText raw "fact_id"]),
      ("source_ref_ids", strings (stringsOf (raw.get "source_ref_ids" (.arr []))))]

/-- The claim of a fact. -/
def shownClaim (raw : Json) : Json :=
  .obj
    [("claim_type", .str "text"), ("fact_id", .str (shownText raw "fact_id")),
      ("value", raw.get "value"), ("unit", raw.get "unit"), ("direction", .null),
      ("period_start", .null), ("period_end", .null)]

/-- The claim of a fact as the contract reads it. -/
def typedClaim (raw : Json) : ReportClaim where
  claimType := .text
  factId := shownText raw "fact_id"
  value := raw.get "value"
  unit := (raw.get "unit").toStr?.map modelStrip
  direction := none
  periodStart := none
  periodEnd := none

/-- A fact of a section. -/
structure ShownFact (snapshot : ReportInputSnapshot Json) (body : SnapshotBody) (raw : Json) :
    Prop extends SectionFact snapshot.reportDate (body.sourceReferences.map Prod.fst) raw where
  mem : raw ∈ body.facts
  factId : raw.get "fact_id" = .str (shownText raw "fact_id")
  isId : IsId (shownText raw "fact_id")

/-- A fact of a section is one that can be shown. -/
theorem SnapshotOf.shownFact (h : SnapshotOf w python snapshot body policy) {sectionId : String}
    {raw : Json} (hraw : raw ∈ sectionFacts snapshot sectionId) : ShownFact snapshot body raw := by
  obtain ⟨hmem, hsection⟩ := List.mem_filter.mp hraw
  rw [h.rawFacts] at hmem
  have hfact := h.material.facts raw hmem
  have hgiven : raw.get "section_id" ≠ .null := by
    intro hnull
    rw [hnull] at hsection
    exact absurd (of_decide_eq_true hsection) (by simp [Json.toStr?])
  obtain ⟨factId, hid, hisId⟩ := hfact.factId
  have htext : shownText raw "fact_id" = factId := by
    unfold shownText
    rw [hid]
    rfl
  refine ⟨hfact.shown hgiven, hmem, ?_, ?_⟩
  · rw [htext]
    exact hid
  · rw [htext]
    exact hisId

/-- A key with a text is there. -/
theorem pyItem_of_str {raw : Json} {key value : String} (h : raw.get key = .str value) :
    pyItem raw key = .ok (.str value) := by
  have hmem : key ∈ raw.keys := by
    cases raw with
    | obj fields =>
      have hgiven : (Json.obj fields).get key ≠ .null := by
        rw [h]
        exact Json.noConfusion
      have hfound := List.mem_of_find?_eq_some (find?_of_get_ne_null hgiven)
      exact List.mem_map.mpr ⟨_, hfound, rfl⟩
    | _ => cases h
  unfold pyItem
  rw [if_pos hmem, h]

theorem pyString_str (value : String) : pyString python (.str value) = value := rfl

theorem shownText_label {raw : Json} {label : String} {key : String}
    (h : ∀ default, raw.get key default = .str label) : shownText raw key = label := by
  unfold shownText
  rw [h]
  rfl

theorem stringsOf_strings (values : List String) : stringsOf (strings values) = values := by
  show (values.map Json.str).filterMap Json.toStr? = values
  rw [List.filterMap_map]
  exact List.filterMap_some

theorem ShownFact.item {raw : Json} (h : ShownFact snapshot body raw) :
    factItem python raw = .ok (shownItem raw) := by
  obtain ⟨label, hlabel⟩ := h.label
  obtain ⟨displayText, hdisplay⟩ := h.displayText
  obtain ⟨id, -, hsource⟩ := h.source
  unfold factItem shownItem
  rw [pyItem_of_str h.factId, hsource, shownText_label hlabel, shownText_label hdisplay]
  simp only [hlabel, hdisplay, pyString_str, stringsOf_strings]
  rfl

theorem ShownFact.claim {raw : Json} (h : ShownFact snapshot body raw) :
    factClaim raw = .ok (shownClaim raw) := by
  unfold factClaim shownClaim
  rw [h.claimType, pyItem_of_str h.factId, h.direction, h.periodStart, h.periodEnd]
  rfl

/-! ## Contents -/

/-- The content of a section: facts that it shows, or sources, or a few words. -/
structure ContentOf (snapshot : ReportInputSnapshot Json) (body : SnapshotBody)
    (content : SectionContent) (facts sources : List Json) : Prop where
  items : content.items = facts.map shownItem ++ sources.map sourceItem
  claims : content.claims = (facts.filter fun raw => isGiven (raw.get "value")).map shownClaim
  shown : ∀ raw ∈ facts, ShownFact snapshot body raw
  cited : ∀ source ∈ sources, source ∈ body.sourceReferences.map Prod.snd
  words : ∀ sectionText ∈ content.text, facts = [] ∧ sources = [] ∧
    modelStrip sectionText = sectionText ∧ sectionText.length ≤ 600
  reasonCode : ∀ code ∈ content.reasonCode, modelStrip code = code
  issueCodes : ∀ code ∈ content.issueCodes, modelStrip code = code

/-- The facts that the section of an id shows. -/
def shownFacts (snapshot : ReportInputSnapshot Json) (sectionId : String) : List Json :=
  if sectionId ∈ ["data_quality_notice", "source_references"] then []
  else sectionFacts snapshot sectionId

/-- The sources that the section of an id shows. -/
def shownSources (snapshot : ReportInputSnapshot Json) (sectionId : String) : List Json :=
  if sectionId = "source_references" then rawSources snapshot else []

/-- The content made of facts that can be shown. -/
theorem factsContent_of {blocking : Bool} {sectionId : String} {facts : List Json}
    (hshown : ∀ raw ∈ facts, ShownFact snapshot body raw) :
    ContentOf snapshot body (factsContent blocking sectionId (facts.map shownItem)
      ((facts.filter fun raw => isGiven (raw.get "value")).map shownClaim)) facts [] := by
  -- all branches but the last show nothing, and are taken when there are no facts
  have hempty : ∀ {content : SectionContent}, content.items = [] → content.claims = [] →
      (facts.map shownItem).length = 0 →
      (∀ sectionText ∈ content.text, modelStrip sectionText = sectionText ∧
        sectionText.length ≤ 600) →
      (∀ code ∈ content.reasonCode, modelStrip code = code) → content.issueCodes = [] →
      ContentOf snapshot body content facts [] := by
    intro content hitems hclaims hlength htext hreason hcodes
    have hnil : facts = [] := by
      rw [List.length_map] at hlength
      exact List.length_eq_zero_iff.mp hlength
    subst hnil
    refine ⟨hitems, hclaims, hshown, fun _ hsource => absurd hsource List.not_mem_nil, ?_,
      hreason, ?_⟩
    · intro sectionText htextMem
      exact ⟨rfl, rfl, htext sectionText htextMem⟩
    · rw [hcodes]
      exact fun _ hcode => absurd hcode List.not_mem_nil
  have hnone : ∀ {α : Type} {p : α → Prop}, ∀ a ∈ (none : Option α), p a :=
    fun _ hmem => absurd hmem (by simp)
  unfold factsContent
  -- the calendar has no entry
  split
  · rename_i hcalendar
    exact hempty rfl rfl hcalendar.2 hnone hnone rfl
  -- no market moved
  · split
    · rename_i _ hmovements
      refine hempty rfl rfl hmovements.2 hnone ?_ rfl
      intro code hcode
      rw [← Option.some.inj hcode]
      cases blocking <;> decide +kernel
    -- the facts are shown as they are
    · split
      · refine ⟨(List.append_nil _).symm, rfl, hshown,
          fun _ hsource => absurd hsource List.not_mem_nil, hnone, hnone, ?_⟩
        exact fun _ hcode => absurd hcode List.not_mem_nil
      -- the section has no data, or is blocked
      · rename_i _ _ hlength
        refine hempty rfl rfl (not_not.mp hlength) ?_ ?_ rfl
        · intro sectionText htext
          rw [← Option.some.inj htext]
          cases blocking <;> decide +kernel
        · intro code hcode
          rw [← Option.some.inj hcode]
          cases blocking <;> decide +kernel

/-- The builder makes a content of every section. -/
theorem SnapshotOf.content (h : SnapshotOf w python snapshot body policy) {status : ReportStatus}
    {issues : List ReportValidationIssue} (hissues : ∀ issue ∈ issues, IssueTexts issue)
    (sectionId : String) :
    ∃ content, sectionContent python snapshot status issues sectionId = .ok content ∧
      ContentOf snapshot body content (shownFacts snapshot sectionId)
        (shownSources snapshot sectionId) := by
  unfold sectionContent shownFacts shownSources
  -- the references section: the sources of the snapshot, and no fact
  by_cases hsources : sectionId = "source_references"
  · subst hsources
    refine ⟨_, if_pos rfl, ?_⟩
    exact
      { items := rfl
        claims := rfl
        shown := fun _ hraw => absurd hraw List.not_mem_nil
        cited := by
          intro source hsource
          rw [if_pos rfl, h.rawSources] at hsource
          exact hsource
        words := fun _ htext => absurd htext (by simp)
        reasonCode := fun _ hcode => absurd hcode (by simp)
        issueCodes := fun _ hcode => absurd hcode List.not_mem_nil }
  -- the notice: a text of the builder, and the codes of the issues
  · by_cases hnotice : sectionId = "data_quality_notice"
    · subst hnotice
      refine ⟨_, by rw [if_neg hsources, if_pos rfl], ?_⟩
      exact
        { items := rfl
          claims := rfl
          shown := fun _ hraw => absurd hraw List.not_mem_nil
          cited := fun _ hsource => absurd hsource List.not_mem_nil
          words := by
            intro sectionText htext
            rw [← Option.some.inj htext]
            refine ⟨rfl, rfl, qualityNotice_stripped status issues, ?_⟩
            unfold qualityNotice
            split_ifs <;> decide +kernel
          reasonCode := fun _ hcode => absurd hcode (by simp)
          issueCodes := by
            intro code hcode
            obtain ⟨issue, hissue, rfl⟩ := List.mem_map.mp hcode
            exact (hissues issue hissue).code.1 }
    -- any other section: its facts, each made into an item and, with a value, a claim
    · have hfacts : sectionId ∉ ["data_quality_notice", "source_references"] := by
        simp [hsources, hnotice]
      rw [if_neg hsources, if_neg hnotice, if_neg hfacts, if_neg hsources]
      have hshown : ∀ raw ∈ sectionFacts snapshot sectionId, ShownFact snapshot body raw :=
        fun raw hraw => h.shownFact hraw
      have hitems : (sectionFacts snapshot sectionId).mapM (factItem python) =
          .ok ((sectionFacts snapshot sectionId).map shownItem) :=
        Raising.mapM_ok_map fun raw hraw => (hshown raw hraw).item
      have hclaims : ((sectionFacts snapshot sectionId).filter fun raw =>
          isGiven (raw.get "value")).mapM factClaim =
            .ok (((sectionFacts snapshot sectionId).filter fun raw =>
              isGiven (raw.get "value")).map shownClaim) :=
        Raising.mapM_ok_map fun raw hraw => (hshown raw (List.mem_filter.mp hraw).1).claim
      exact ⟨_, Raising.bind_ok.mpr ⟨_, hitems, Raising.bind_ok.mpr ⟨_, hclaims, rfl⟩⟩,
        factsContent_of hshown⟩

/-! ## References of the items -/

theorem shownItem_factIds (raw : Json) :
    RefersOnly "fact_ids" (· = shownText raw "fact_id") (shownItem raw) := by
  refine refersOnly_of_strings rfl (fun id hid => List.mem_singleton.mp hid) ?_
  simp only [List.forall_mem_cons]
  exact ⟨refersOnly_scalar (scalar_str _), refersOnly_scalar (scalar_str _),
    refersOnly_strings _, refersOnly_strings _, fun _ hfield => absurd hfield List.not_mem_nil⟩

theorem shownItem_sourceIds (raw : Json) :
    RefersOnly "source_ref_ids" (· ∈ stringsOf (raw.get "source_ref_ids" (.arr [])))
      (shownItem raw) := by
  refine refersOnly_of_strings rfl (fun id hid => hid) ?_
  simp only [List.forall_mem_cons]
  exact ⟨refersOnly_scalar (scalar_str _), refersOnly_scalar (scalar_str _),
    refersOnly_strings _, refersOnly_strings _, fun _ hfield => absurd hfield List.not_mem_nil⟩

/-- The item of a source is the source. -/
theorem sourceItem_eq (cited : CitedSource) :
    sourceItem (sourceReference w cited) = sourceReference w cited := by
  unfold sourceItem
  rfl

/-- A source names no other source and no fact. -/
theorem sourceReference_refers {fieldName : String} {known : String → Prop}
    (hfield : fieldName ∈ ["fact_ids", "source_ref_ids"]) (cited : CitedSource) :
    RefersOnly fieldName known (sourceReference w cited) := by
  have hnull : (sourceReference w cited).get fieldName = .null := by
    rcases List.mem_cons.mp hfield with rfl | hsource
    · rfl
    · rw [List.mem_singleton.mp hsource]
      rfl
  refine refersOnly_of_null hnull ?_
  simp only [List.forall_mem_cons]
  exact ⟨refersOnly_scalar (scalar_str _), refersOnly_scalar (scalar_str _),
    refersOnly_scalar (scalar_str _), refersOnly_scalar (scalar_str _),
    refersOnly_scalar (scalar_ofOption scalar_str _), refersOnly_scalar (scalar_str _),
    refersOnly_scalar (scalar_str _), fun _ hfield => absurd hfield List.not_mem_nil⟩

variable {content : SectionContent} {facts sources : List Json}

theorem ContentOf.cases_item (h : ContentOf snapshot body content facts sources) {item : Json}
    (hitem : item ∈ content.items) : (∃ raw ∈ facts, item = shownItem raw) ∨
      ∃ source ∈ sources, item = sourceItem source := by
  rw [h.items] at hitem
  rcases List.mem_append.mp hitem with hfact | hsource
  · obtain ⟨raw, hraw, rfl⟩ := List.mem_map.mp hfact
    exact Or.inl ⟨raw, hraw, rfl⟩
  · obtain ⟨source, hmem, rfl⟩ := List.mem_map.mp hsource
    exact Or.inr ⟨source, hmem, rfl⟩

theorem SnapshotOf.cited (h : SnapshotOf w python snapshot body policy) {source : Json}
    (hsource : source ∈ body.sourceReferences.map Prod.snd) :
    ∃ cited, source = sourceReference w cited ∧
      sourceRefId w cited.toSourceRef ∈ body.sourceReferences.map Prod.fst := by
  obtain ⟨entry, hentry, rfl⟩ := List.mem_map.mp hsource
  obtain ⟨cited, heq⟩ := h.material.sources.cited entry hentry
  refine ⟨cited, congrArg Prod.snd heq, ?_⟩
  have hid := congrArg Prod.fst heq
  exact List.mem_map.mpr ⟨entry, hentry, hid⟩

/-- The facts of the items are those that the section shows. -/
theorem ContentOf.item_factIds (h : ContentOf snapshot body content facts sources)
    (hsnapshot : SnapshotOf w python snapshot body policy) {item : Json}
    (hitem : item ∈ content.items) :
    RefersOnly "fact_ids" (fun id => ∃ raw ∈ facts, shownText raw "fact_id" = id) item := by
  rcases h.cases_item hitem with ⟨raw, hraw, rfl⟩ | ⟨source, hsource, rfl⟩
  · refine (shownItem_factIds raw).mono ?_
    rintro id rfl
    exact ⟨raw, hraw, rfl⟩
  · obtain ⟨cited, rfl, -⟩ := hsnapshot.cited (h.cited source hsource)
    rw [sourceItem_eq]
    exact sourceReference_refers (by simp) cited

/-- The sources of the items are sources of the snapshot. -/
theorem ContentOf.item_sourceIds (h : ContentOf snapshot body content facts sources)
    (hsnapshot : SnapshotOf w python snapshot body policy) {item : Json}
    (hitem : item ∈ content.items) :
    RefersOnly "source_ref_ids" (· ∈ body.sourceReferences.map Prod.fst) item := by
  rcases h.cases_item hitem with ⟨raw, hraw, rfl⟩ | ⟨source, hsource, rfl⟩
  · obtain ⟨id, hid, hget⟩ := (h.shown raw hraw).source
    refine (shownItem_sourceIds raw).mono ?_
    intro other hother
    rw [hget, stringsOf_strings] at hother
    exact List.mem_singleton.mp hother ▸ hid
  · obtain ⟨cited, rfl, -⟩ := hsnapshot.cited (h.cited source hsource)
    rw [sourceItem_eq]
    exact sourceReference_refers (by simp) cited

theorem SnapshotOf.sourceId_stripped (h : SnapshotOf w python snapshot body policy) {id : String}
    (hid : id ∈ body.sourceReferences.map Prod.fst) : IsId id := by
  obtain ⟨entry, hentry, rfl⟩ := List.mem_map.mp hid
  obtain ⟨cited, rfl⟩ := h.material.sources.cited entry hentry
  exact (stableId_fits (by decide) (by decide)).isId (Nat.le_refl 1)

end MacroPlatform.Report
