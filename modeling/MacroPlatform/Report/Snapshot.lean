import Mathlib.Data.List.TakeWhile
import MacroPlatform.Report.Materializer

/-! # What a materialized snapshot holds

The facts of a section have a source of the snapshot, were available at the cutoff, and carry no
claim of their own; the sources are those of validated contracts, each once.

* `excludeAfterCutoff_safe`: what came after the cutoff is left out;
* `snapshotBody_material`: the body of collected evidence.
-/

namespace MacroPlatform.Report

open Daily

variable {w : Writing} {python : Python}

/-! ## Ids -/

/-- A text without space at its ends that is not empty. -/
structure IsId (s : String) : Prop where
  stripped : modelStrip s = s
  nonempty : s ≠ ""

/-- A text without spaces is stripped already. -/
theorem modelStrip_of_noSpace {s : String} (h : ∀ c ∈ s.toList, isWhiteSpace c = false) :
    modelStrip s = s := by
  have hdrop : s.toList.dropWhile isWhiteSpace = s.toList := by
    refine dropWhile_of_head ?_
    intro c hc
    exact h c (List.mem_of_mem_head? hc)
  have hreverse : s.toList.reverse.dropWhile isWhiteSpace = s.toList.reverse := by
    refine dropWhile_of_head ?_
    intro c hc
    exact h c (List.mem_reverse.mp (List.mem_of_mem_head? hc))
  unfold modelStrip stripWhere
  rw [hdrop, hreverse, List.reverse_reverse, String.ofList_toList]

theorem IsSha256.noSpace {s : String} (h : IsSha256 s) : ∀ c ∈ s.toList, isWhiteSpace c = false := by
  have hdigits : ∀ c ∈ "0123456789abcdef".toList, isWhiteSpace c = false := by decide
  intro c hc
  exact hdigits c (h.2 c hc)

theorem IsSha256.read {s : String} (h : IsSha256 s) : sha256 (.str s) = some s := by
  have hstrip := modelStrip_of_noSpace h.noSpace
  unfold sha256
  rw [text_str hstrip (Nat.zero_le _)]
  simp only [Option.bind_eq_bind, Option.bind_some]
  exact if_pos h

theorem FitsText.read {minLength maxLength : ℕ} {s : String} (h : FitsText minLength maxLength s) :
    boundedText minLength maxLength (.str s) = some s :=
  boundedText_some.mpr ⟨h.stripped, h.atLeast, h.atMost⟩

/-- The length of a stable id does not depend on its parts. -/
theorem digestId_fits {idNamespace : String} (text : String)
    (hspace : ∀ c ∈ idNamespace.toList, isWhiteSpace c = false)
    (hlength : idNamespace.length ≤ 63) :
    FitsText 1 128 (idNamespace ++ "_" ++ w.sha256Hex text) := by
  have hdigest := w.hexdigest text
  have hcount : (idNamespace ++ "_" ++ w.sha256Hex text).length = idNamespace.length + 1 + 64 := by
    rw [String.length_append, String.length_append, hdigest.1]
    rfl
  refine ⟨modelStrip_of_noSpace ?_, by omega, by omega⟩
  intro c hc
  rw [String.toList_append, String.toList_append, List.mem_append, List.mem_append] at hc
  rcases hc with (hname | hbar) | hhex
  · exact hspace c hname
  · have hsame : c = '_' := by simpa using hbar
    rw [hsame]
    decide
  · exact hdigest.noSpace c hhex

theorem stableId_fits {idNamespace : String} {parts : List String}
    (hspace : ∀ c ∈ idNamespace.toList, isWhiteSpace c = false)
    (hlength : idNamespace.length ≤ 63) : FitsText 1 128 (stableId w idNamespace parts) :=
  digestId_fits (w.dumpsParts parts) hspace hlength

theorem FitsText.isId {minLength maxLength : ℕ} {s : String} (h : FitsText minLength maxLength s)
    (hmin : 1 ≤ minLength) : IsId s := by
  refine ⟨h.stripped, ?_⟩
  rintro rfl
  have hlength := h.atLeast
  have hzero : "".length = 0 := rfl
  omega

/-! ## Facts -/

/-- A fact that a section shows. -/
structure SectionFact (reportDate : Day) (sourceIds : List String) (raw : Json) : Prop where
  label : ∃ label, ∀ default, raw.get "label" default = .str label
  displayText : ∃ displayText, ∀ default, raw.get "display_text" default = .str displayText
  value : ∃ value, raw.get "value" = .ofOption .str value
  unit : ∃ unit, raw.get "unit" = .ofOption .str unit
  direction : raw.get "direction" = .null
  periodStart : raw.get "period_start" = .null
  periodEnd : raw.get "period_end" = .null
  claimType : ∀ default, raw.get "claim_type" default = default
  reportDate : raw.get "report_date" = .str (Day.isoformat reportDate)
  source : ∃ id ∈ sourceIds, ∀ default, raw.get "source_ref_ids" default = strings [id]

/-- A fact of a materialized snapshot. -/
structure MaterialFact (reportDate : Day) (sourceIds : List String) (raw : Json) : Prop where
  dict : ∃ fields, raw = .obj fields
  factId : ∃ factId, raw.get "fact_id" = .str factId ∧ IsId factId
  shown : raw.get "section_id" ≠ .null → SectionFact reportDate sourceIds raw

theorem factId_isId (parts : List String) : IsId (stableId w "report-fact" parts) :=
  (stableId_fits (by decide) (by decide)).isId (Nat.le_refl 1)

/-- The fact of a bar is material. -/
theorem marketBarFact_material {inputId : String} {reportDate : Day} {bar : CitedBar}
    {sourceIds : List String} (hsource : sourceRefId w bar.cited.toSourceRef ∈ sourceIds) :
    MaterialFact reportDate sourceIds (marketBarFact w inputId reportDate bar) where
  dict := ⟨_, rfl⟩
  factId := ⟨_, rfl, factId_isId _⟩
  shown _ :=
    { label := ⟨_, fun _ => rfl⟩
      displayText := ⟨_, fun _ => rfl⟩
      value := ⟨some (w.decimal bar.close), rfl⟩
      unit := ⟨some bar.currency, rfl⟩
      direction := rfl
      periodStart := rfl
      periodEnd := rfl
      claimType := fun _ => rfl
      reportDate := rfl
      source := ⟨_, hsource, fun _ => rfl⟩ }

/-- So is that of a news event. -/
theorem newsEventFact_material {inputId : String} {reportDate : Day} {event : CitedNews}
    {sourceIds : List String} (hsource : sourceRefId w event.cited.toSourceRef ∈ sourceIds) :
    MaterialFact reportDate sourceIds (newsEventFact w inputId reportDate event) where
  dict := ⟨_, rfl⟩
  factId := ⟨_, rfl, factId_isId _⟩
  shown _ :=
    { label := ⟨_, fun _ => rfl⟩
      displayText := ⟨_, fun _ => rfl⟩
      value := ⟨none, rfl⟩
      unit := ⟨none, rfl⟩
      direction := rfl
      periodStart := rfl
      periodEnd := rfl
      claimType := fun _ => rfl
      reportDate := rfl
      source := ⟨_, hsource, fun _ => rfl⟩ }

/-- So is that of a release. -/
theorem macroReleaseFact_material {inputId : String} {reportDate : Day} {release : CitedRelease}
    {sourceIds : List String} (hsource : sourceRefId w release.cited.toSourceRef ∈ sourceIds) :
    MaterialFact reportDate sourceIds (macroReleaseFact w inputId reportDate release) where
  dict := ⟨_, rfl⟩
  factId := ⟨_, rfl, factId_isId _⟩
  shown _ :=
    { label := ⟨_, fun _ => rfl⟩
      displayText := ⟨_, fun _ => rfl⟩
      value := ⟨release.actual.map w.decimal, by
        show decimalOrNone w release.actual = _
        cases release.actual <;> rfl⟩
      unit := ⟨some release.unit, rfl⟩
      direction := rfl
      periodStart := rfl
      periodEnd := rfl
      claimType := fun _ => rfl
      reportDate := rfl
      source := ⟨_, hsource, fun _ => rfl⟩ }

theorem noReleasesFact_material {reportDate : Day} {cutoffAt : Instant} {region : Region}
    {sourceIds : List String} :
    MaterialFact reportDate sourceIds (noReleasesFact reportDate cutoffAt region) where
  dict := ⟨_, rfl⟩
  factId := by
    refine ⟨_, rfl, ?_, ?_⟩
    · cases region <;> decide +kernel
    · cases region <;> decide +kernel
  shown h := absurd rfl h

/-- A fact keeps its source when there are more. -/
theorem MaterialFact.mono {reportDate : Day} {sourceIds more : List String} {raw : Json}
    (h : MaterialFact reportDate sourceIds raw) (hsub : sourceIds ⊆ more) :
    MaterialFact reportDate more raw := by
  refine ⟨h.dict, h.factId, ?_⟩
  intro hsection
  have hshown := h.shown hsection
  obtain ⟨id, hid, hsource⟩ := hshown.source
  exact { hshown with source := ⟨id, hsub hid, hsource⟩ }

/-! ## Evidence -/

/-- The ids of the sources of some evidence. -/
def sourceIdsOf (sources : List Json) : List String :=
  sources.filterMap fun source => (source.get "source_ref_id").toStr?

/-- Evidence that a report can be built from. -/
structure MaterialEvidence (w : Writing) (reportDate : Day) (item : ReportInputEvidence) :
    Prop where
  reason : modelStrip item.reason ≠ ""
  facts : ∀ raw ∈ item.facts, MaterialFact reportDate (sourceIdsOf item.sourceReferences) raw
  sources : ∀ source ∈ item.sourceReferences, ∃ cited, source = sourceReference w cited

/-- A text with a character that is no space is not empty when stripped. -/
theorem modelStrip_ne_empty {s : String} {c : Char} (hc : c ∈ s.toList)
    (hspace : isWhiteSpace c = false) : modelStrip s ≠ "" := by
  intro hempty
  have hnil : ((s.toList.dropWhile isWhiteSpace).reverse.dropWhile isWhiteSpace).reverse = [] := by
    unfold modelStrip stripWhere at hempty
    have hlist := congrArg String.toList hempty
    rw [String.toList_ofList] at hlist
    exact hlist
  have hinner : (s.toList.dropWhile isWhiteSpace).reverse.dropWhile isWhiteSpace = [] :=
    List.reverse_eq_nil_iff.mp hnil
  have hspaces := List.dropWhile_eq_nil_iff.mp hinner
  -- what is left begins with no space, hence nothing is left
  have hdropped : s.toList.dropWhile isWhiteSpace = [] := by
    cases hrest : s.toList.dropWhile isWhiteSpace with
    | nil => rfl
    | cons first rest =>
      have hfirst : isWhiteSpace first = false :=
        head_dropWhile isWhiteSpace s.toList first (by rw [hrest]; rfl)
      have hmem : first ∈ (s.toList.dropWhile isWhiteSpace).reverse := by
        rw [hrest]
        simp
      rw [hspaces first hmem] at hfirst
      cases hfirst
  have hall := List.dropWhile_eq_nil_iff.mp hdropped c hc
  rw [hall] at hspace
  cases hspace

theorem mem_dict {α : Type} {pairs : List (String × α)} {entry : String × α}
    (h : entry ∈ Json.dict pairs) : entry ∈ pairs := by
  induction pairs using List.reverseRecOn with
  | nil => exact h
  | append_singleton pairs pair ih =>
    rw [Json.dict_concat] at h
    rw [List.mem_append, List.mem_singleton]
    rcases mem_of_mem_assign h with hnew | hold
    · exact Or.inr hnew
    · exact Or.inl (ih hold)

theorem sourceId_mem {sources : List Json} {cited : CitedSource}
    (h : sourceReference w cited ∈ sources) :
    sourceRefId w cited.toSourceRef ∈ sourceIdsOf sources :=
  List.mem_filterMap.mpr ⟨_, h, rfl⟩

/-- The calendar of all regions is material evidence. -/
theorem globalCalendar_material {reportDate : Day} {cutoffAt : Instant}
    (regional : List RegionalCalendar) :
    MaterialEvidence w reportDate (globalCalendarEvidence w reportDate cutoffAt regional) := by
  unfold globalCalendarEvidence
  split
  · rename_i calendar hproblem
    refine ⟨?_, fun _ hraw => absurd hraw List.not_mem_nil,
      fun _ hsource => absurd hsource List.not_mem_nil⟩
    refine @modelStrip_ne_empty _ 'c' ?_ (by decide)
    simp
  · refine ⟨?_, ?_, ?_⟩
    · simp only
      split_ifs <;> decide +kernel
    · intro raw hraw
      obtain ⟨calendar, hcalendar, hfact⟩ := List.mem_flatMap.mp hraw
      unfold RegionalCalendar.facts at hfact
      split at hfact
      · rw [List.mem_singleton.mp hfact]
        exact noReleasesFact_material
      · obtain ⟨release, hrelease, rfl⟩ := List.mem_map.mp hfact
        refine macroReleaseFact_material ?_
        -- the source of the release has its key in the dict, whoever wrote the value
        have hkey : sourceRefId w release.cited.toSourceRef ∈ (Json.dict
            (regional.flatMap fun calendar => calendar.releases.map fun release =>
              (sourceRefId w release.cited.toSourceRef, sourceReference w release.cited))).map
                Prod.fst := by
          refine Json.mem_keys_dict.mpr (List.mem_map.mpr
            ⟨(sourceRefId w release.cited.toSourceRef, sourceReference w release.cited), ?_, rfl⟩)
          refine List.mem_flatMap.mpr ⟨calendar, hcalendar, ?_⟩
          exact List.mem_map.mpr ⟨release, hrelease, rfl⟩
        obtain ⟨entry, hentry, hid⟩ := List.mem_map.mp hkey
        obtain ⟨other, -, hpair⟩ := List.mem_flatMap.mp (mem_dict hentry)
        obtain ⟨found, -, rfl⟩ := List.mem_map.mp hpair
        rw [← hid]
        exact sourceId_mem (List.mem_map.mpr ⟨_, hentry, rfl⟩)
    · intro source hsource
      obtain ⟨entry, hentry, rfl⟩ := List.mem_map.mp hsource
      obtain ⟨other, -, hpair⟩ := List.mem_flatMap.mp (mem_dict hentry)
      obtain ⟨found, -, rfl⟩ := List.mem_map.mp hpair
      exact ⟨found.cited, rfl⟩

/-- Everything that is collected is material. -/
theorem collected_material {reportDate : Day} {cutoffAt : Instant} {item : ReportInputEvidence}
    (h : Collected w reportDate cutoffAt item) : MaterialEvidence w reportDate item := by
  -- by the branch of the collector that made the evidence
  cases h with
  -- a problem has no fact
  | problem hstatus hreason =>
    exact ⟨hreason, fun _ hraw => absurd hraw List.not_mem_nil,
      fun _ hsource => absurd hsource List.not_mem_nil⟩
  | market bars hreason =>
    refine ⟨hreason, ?_, ?_⟩
    -- each fact of the market cites the source of its own bar
    · intro raw hraw
      obtain ⟨bar, hbar, rfl⟩ := List.mem_map.mp hraw
      exact marketBarFact_material (sourceId_mem (List.mem_map.mpr ⟨bar, hbar, rfl⟩))
    · intro source hsource
      obtain ⟨bar, -, rfl⟩ := List.mem_map.mp hsource
      exact ⟨bar.cited, rfl⟩
  | news events hreason =>
    refine ⟨hreason, ?_, ?_⟩
    -- and each headline that of its event
    · intro raw hraw
      obtain ⟨event, hevent, rfl⟩ := List.mem_map.mp hraw
      exact newsEventFact_material (sourceId_mem (List.mem_map.mpr ⟨event, hevent, rfl⟩))
    · intro source hsource
      obtain ⟨event, -, rfl⟩ := List.mem_map.mp hsource
      exact ⟨event.cited, rfl⟩
  | calendar regional => exact globalCalendar_material regional

theorem closedMarketReason_given (region : RegionMarketDayPolicy) :
    modelStrip (closedMarketReason region) ≠ "" := by
  refine @modelStrip_ne_empty _ 'm' ?_ (by decide)
  unfold closedMarketReason
  simp

/-- Evidence that lost its facts. -/
theorem MaterialEvidence.of_empty {reportDate : Day} {item : ReportInputEvidence}
    (hreason : modelStrip item.reason ≠ "") (hfacts : item.facts = [])
    (hsources : item.sourceReferences = []) : MaterialEvidence w reportDate item := by
  refine ⟨hreason, ?_, ?_⟩
  · rw [hfacts]
    exact fun _ hraw => absurd hraw List.not_mem_nil
  · rw [hsources]
    exact fun _ hsource => absurd hsource List.not_mem_nil

/-- The policy of the day leaves it so. -/
theorem applyReportDayPolicy_material {reportDate : Day} {policy : ReportDayPolicyResult}
    {evidence : List ReportInputEvidence}
    (h : ∀ item ∈ evidence, MaterialEvidence w reportDate item) :
    ∀ item ∈ applyReportDayPolicy policy evidence, MaterialEvidence w reportDate item := by
  intro item hitem
  rcases List.mem_append.mp hitem with hold | hclosed
  · obtain ⟨before, hbefore, rfl⟩ := List.mem_map.mp hold
    have hmaterial := h before hbefore
    unfold applyPolicy
    split
    · exact ⟨hmaterial.reason, hmaterial.facts, hmaterial.sources⟩
    · split
      · exact hmaterial
      · split
        · exact ⟨hmaterial.reason, hmaterial.facts, hmaterial.sources⟩
        · exact .of_empty (closedMarketReason_given _) rfl rfl
  · obtain ⟨closed, -, rfl⟩ := List.mem_map.mp hclosed
    exact .of_empty (closedMarketReason_given _) rfl rfl

/-- What is left at the cutoff: its facts were available. -/
structure SafeEvidence (w : Writing) (python : Python) (reportDate : Day) (cutoffAt : Instant)
    (item : ReportInputEvidence) : Prop extends MaterialEvidence w reportDate item where
  available : item.Usable → ∀ raw ∈ item.facts,
    ∃ availableAt, parseDatetime python (raw.get "available_at") = some availableAt ∧
      availableAt ≤ cutoffAt

/-- Evidence is kept whole, with facts that were available, or dropped with a reason. -/
theorem afterCutoff_cases (python : Python) (cutoffAt : Instant) (item : ReportInputEvidence)
    (facts : List Json) :
    (afterCutoff python cutoffAt item facts = item ∧ ∀ raw ∈ facts,
        ∃ availableAt, parseDatetime python (raw.get "available_at") = some availableAt ∧
          availableAt ≤ cutoffAt) ∨
      ∃ status reason, afterCutoff python cutoffAt item facts = item.dropped status reason ∧
        modelStrip reason ≠ "" := by
  -- induction on the facts: the first one that is late or unread drops the evidence
  induction facts with
  | nil => exact Or.inl ⟨rfl, fun _ hraw => absurd hraw List.not_mem_nil⟩
  | cons fact facts ih =>
    unfold afterCutoff
    cases hparsed : parseDatetime python (fact.get "available_at") with
    | none => exact Or.inr ⟨_, _, rfl, by decide +kernel⟩
    | some availableAt =>
      simp only
      -- the fact came after the cutoff
      by_cases hlate : cutoffAt < availableAt
      · rw [if_pos hlate]
        exact Or.inr ⟨_, _, rfl, by decide +kernel⟩
      · rw [if_neg hlate]
        -- it was in time, so the rest decides
        rcases ih with ⟨hsame, hall⟩ | hdropped
        · left
          refine ⟨hsame, ?_⟩
          intro raw hraw
          rcases List.mem_cons.mp hraw with rfl | hmem
          · exact ⟨availableAt, hparsed, not_lt.mp hlate⟩
          · exact hall raw hmem
        · exact Or.inr hdropped

/-- What is kept is safe to show. -/
theorem excludeAfterCutoff_safe {reportDate : Day} {cutoffAt : Instant}
    {item : ReportInputEvidence} (h : MaterialEvidence w reportDate item) :
    SafeEvidence w python reportDate cutoffAt (excludeAfterCutoff python cutoffAt item) := by
  unfold excludeAfterCutoff
  by_cases husable : item.Usable
  · rw [if_pos husable]
    rcases afterCutoff_cases python cutoffAt item item.facts with
      ⟨hsame, hall⟩ | ⟨status, reason, hdropped, hreason⟩
    · rw [hsame]
      exact ⟨h, fun _ => hall⟩
    · rw [hdropped]
      exact ⟨.of_empty hreason rfl rfl, fun _ _ hraw => absurd hraw List.not_mem_nil⟩
  · rw [if_neg husable]
    exact ⟨h, fun hnow => absurd hnow husable⟩

/-! ## The body of the snapshot -/

/-- The sources that were added, by their ids. -/
structure SourcesAdded (w : Writing) (sourceById : List (String × Json)) : Prop where
  cited : ∀ entry ∈ sourceById, ∃ cited : CitedSource,
    entry = (sourceRefId w cited.toSourceRef, sourceReference w cited)
  distinct : (sourceById.map Prod.fst).Nodup

/-- A source that is added is there afterwards, and nothing is lost. -/
theorem addSource_some {sourceById after : List (String × Json)} {cited : CitedSource}
    (h : addSource sourceById (sourceReference w cited) = some after)
    (hadded : SourcesAdded w sourceById) :
    SourcesAdded w after ∧ sourceById ⊆ after ∧
      sourceRefId w cited.toSourceRef ∈ after.map Prod.fst := by
  have hid : ((sourceReference w cited).get "source_ref_id").toStr? =
      some (sourceRefId w cited.toSourceRef) := rfl
  unfold addSource at h
  rw [hid] at h
  simp only [Option.bind_eq_bind, Option.bind_some] at h
  -- the id is new, or its source is already there
  cases hlookup : lookup? sourceById (sourceRefId w cited.toSourceRef) with
  | none =>
    rw [hlookup] at h
    cases h
    -- a new id is none of the keys
    have hnew : sourceRefId w cited.toSourceRef ∉ sourceById.map Prod.fst := by
      intro hmem
      obtain ⟨entry, hentry, hkey⟩ := List.mem_map.mp hmem
      have hnone := List.find?_eq_none.mp (Option.map_eq_none_iff.mp hlookup) entry hentry
      exact hnone (decide_eq_true hkey)
    refine ⟨⟨?_, ?_⟩, List.subset_append_left _ _, by simp⟩
    · intro entry hentry
      rcases List.mem_append.mp hentry with hold | hlast
      · exact hadded.cited entry hold
      · exact ⟨cited, List.mem_singleton.mp hlast⟩
    · rw [List.map_append, List.map_singleton]
      refine List.nodup_append.mpr ⟨hadded.distinct, List.nodup_singleton _, ?_⟩
      intro key hkey other hother
      rw [List.mem_singleton.mp hother]
      rintro rfl
      exact hnew hkey
  -- an id that is there must have the same record
  | some existing =>
    rw [hlookup] at h
    simp only at h
    split at h
    · cases h
      obtain ⟨entry, hentry, -⟩ := Option.map_eq_some_iff.mp hlookup
      have hkey := List.find?_some hentry
      refine ⟨hadded, fun _ hold => hold, ?_⟩
      exact List.mem_map.mpr ⟨entry, List.mem_of_find?_eq_some hentry, of_decide_eq_true hkey⟩
    · cases h

/-- So for a list of sources. -/
theorem addSources_some {sources : List Json} {sourceById after : List (String × Json)}
    (h : sources.foldlM addSource sourceById = some after)
    (hsources : ∀ source ∈ sources, ∃ cited, source = sourceReference w cited)
    (hadded : SourcesAdded w sourceById) :
    SourcesAdded w after ∧ sourceById ⊆ after ∧
      ∀ id ∈ sourceIdsOf sources, id ∈ after.map Prod.fst := by
  -- induction on the sources: each adds its own and keeps those before
  induction sources generalizing sourceById with
  | nil =>
    cases h
    exact ⟨hadded, fun _ hold => hold, fun _ hid => absurd hid List.not_mem_nil⟩
  | cons source sources ih =>
    rw [List.foldlM_cons] at h
    obtain ⟨next, hnext, hrest⟩ := Option.bind_eq_some_iff.mp h
    obtain ⟨cited, rfl⟩ := hsources source List.mem_cons_self
    obtain ⟨haddedNext, hsub, hmem⟩ := addSource_some hnext hadded
    obtain ⟨haddedAfter, hsubAfter, hall⟩ :=
      ih hrest (fun other hother => hsources other (List.mem_cons_of_mem _ hother)) haddedNext
    refine ⟨haddedAfter, fun entry hentry => hsubAfter (hsub hentry), ?_⟩
    intro id hid
    have hcons : sourceIdsOf (sourceReference w cited :: sources) =
        sourceRefId w cited.toSourceRef :: sourceIdsOf sources := rfl
    rw [hcons] at hid
    rcases List.mem_cons.mp hid with rfl | hold
    · exact List.map_subset _ hsubAfter hmem
    · exact hall id hold

/-- Facts whose ids are texts are named by these texts. -/
theorem stringFactIds_eq {facts : List Json}
    (h : ∀ raw ∈ facts, ∃ factId, raw.get "fact_id" = .str factId) :
    facts.map (·.get "fact_id") = (stringFactIds facts).map .str := by
  induction facts with
  | nil => rfl
  | cons fact facts ih =>
    obtain ⟨factId, hid⟩ := h fact List.mem_cons_self
    have hrest := ih fun other hother => h other (List.mem_cons_of_mem _ hother)
    have hcons : stringFactIds (fact :: facts) = factId :: stringFactIds facts := by
      unfold stringFactIds
      rw [List.filterMap_cons, hid]
      rfl
    rw [List.map_cons, hid, hrest, hcons, List.map_cons]

/-- The facts, sources and input quality of a snapshot. -/
structure MaterialBody (w : Writing) (python : Python) (reportDate : Day) (cutoffAt : Instant)
    (body : SnapshotBody) : Prop where
  facts : ∀ raw ∈ body.facts, MaterialFact reportDate (body.sourceReferences.map Prod.fst) raw
  available : ∀ raw ∈ body.facts, ∃ availableAt,
    parseDatetime python (raw.get "available_at") = some availableAt ∧ availableAt ≤ cutoffAt
  factIds : body.facts.map (·.get "fact_id") = body.factIds.map .str
  distinct : body.factIds.Nodup
  sources : SourcesAdded w body.sourceReferences
  quality : ∀ entry ∈ body.inputQuality, ∃ item, entry = inputQualityEntry item ∧
    modelStrip item.reason ≠ ""

/-- A body made of material evidence is material. -/
theorem snapshotBody_material {reportDate : Day} {cutoffAt : Instant}
    {evidence : List ReportInputEvidence} {body : SnapshotBody}
    (hevidence : ∀ item ∈ evidence, MaterialEvidence w reportDate item)
    (h : snapshotBody python cutoffAt evidence = some body) :
    MaterialBody w python reportDate cutoffAt body := by
  unfold snapshotBody at h
  simp only [Option.bind_eq_bind, Option.bind_eq_some_iff, Option.guard_eq_some',
    exists_const] at h
  obtain ⟨-, ⟨-, hdistinct⟩, sourceById, hsources, hbody⟩ := h
  have husable : ∀ item ∈ usableEvidence python cutoffAt evidence,
      SafeEvidence w python reportDate cutoffAt item ∧ item.Usable := by
    intro item hitem
    obtain ⟨hmem, husable⟩ := List.mem_filter.mp hitem
    obtain ⟨before, hbefore, rfl⟩ := List.mem_map.mp hmem
    exact ⟨excludeAfterCutoff_safe (hevidence before hbefore), of_decide_eq_true husable⟩
  have hcited : ∀ source ∈ (usableEvidence python cutoffAt evidence).flatMap
      (·.sourceReferences), ∃ cited, source = sourceReference w cited := by
    intro source hsource
    obtain ⟨item, hitem, hmem⟩ := List.mem_flatMap.mp hsource
    exact (husable item hitem).1.sources source hmem
  obtain ⟨hadded, -, hids⟩ := addSources_some hsources hcited
    ⟨fun _ hentry => absurd hentry List.not_mem_nil, List.nodup_nil⟩
  cases hbody
  have hfacts : ∀ raw ∈ sortedFacts python (usableEvidence python cutoffAt evidence),
      ∃ item ∈ usableEvidence python cutoffAt evidence, raw ∈ item.facts := by
    intro raw hraw
    exact List.mem_flatMap.mp ((List.mem_insertionSort _).mp hraw)
  have hkeys : ∀ id, id ∈ sourceById.map Prod.fst →
      id ∈ (sourceById.insertionSort fun a b => a.1 ≤ b.1).map Prod.fst := by
    intro id hid
    obtain ⟨entry, hentry, rfl⟩ := List.mem_map.mp hid
    exact List.mem_map_of_mem ((List.mem_insertionSort _).mpr hentry)
  have hmaterial : ∀ raw ∈ sortedFacts python (usableEvidence python cutoffAt evidence),
      MaterialFact reportDate
        ((sourceById.insertionSort fun a b => a.1 ≤ b.1).map Prod.fst) raw := by
    intro raw hraw
    obtain ⟨item, hitem, hmem⟩ := hfacts raw hraw
    refine ((husable item hitem).1.facts raw hmem).mono ?_
    intro id hid
    refine hkeys id (hids id ?_)
    obtain ⟨source, hsource, hfound⟩ := List.mem_filterMap.mp hid
    exact List.mem_filterMap.mpr ⟨source, List.mem_flatMap.mpr ⟨item, hitem, hsource⟩, hfound⟩
  exact
    { facts := hmaterial
      available := by
        intro raw hraw
        obtain ⟨item, hitem, hmem⟩ := hfacts raw hraw
        obtain ⟨hsafe, hnow⟩ := husable item hitem
        exact hsafe.available hnow raw hmem
      factIds := by
        refine stringFactIds_eq ?_
        intro raw hraw
        obtain ⟨factId, hid, -⟩ := (hmaterial raw hraw).factId
        exact ⟨factId, hid⟩
      distinct := hdistinct
      sources := by
        refine ⟨?_, ?_⟩
        · intro entry hentry
          exact hadded.cited entry ((List.mem_insertionSort _).mp hentry)
        · exact (((List.perm_insertionSort _ _).map Prod.fst).nodup_iff).mpr hadded.distinct
      quality := by
        intro entry hentry
        obtain ⟨item, hitem, rfl⟩ := List.mem_map.mp ((List.mem_insertionSort _).mp hentry)
        obtain ⟨before, hbefore, rfl⟩ := List.mem_map.mp hitem
        have hsafe := @excludeAfterCutoff_safe w python reportDate cutoffAt before
          (hevidence before hbefore)
        exact ⟨_, rfl, hsafe.reason⟩ }

/-- A materialized snapshot is one of a body. -/
structure SnapshotOf (w : Writing) (python : Python) (snapshot : ReportInputSnapshot Json)
    (body : SnapshotBody) (policy : ReportDayPolicyResult) : Prop where
  material : MaterialBody w python snapshot.reportDate snapshot.cutoffAt body
  version : FitsText 1 32 snapshot.snapshotVersion
  fingerprint : IsSha256 snapshot.fingerprintSha256
  same : snapshot = snapshotOf w snapshot.reportDate snapshot.asOf snapshot.cutoffAt
    snapshot.snapshotVersion snapshot.fingerprintSha256 body policy

/-- A materialized snapshot has a body and a policy. -/
theorem Materialized.of_body {snapshot : ReportInputSnapshot Json}
    (h : Materialized w python snapshot) :
    ∃ body policy, SnapshotOf w python snapshot body policy := by
  obtain ⟨asOf, cutoffAt, snapshotVersion, evidence, policy, hcollected, hsnapshot⟩ := h
  unfold snapshotFromEvidence at hsnapshot
  obtain ⟨body, hbody, hrest⟩ := Option.bind_eq_some_iff.mp hsnapshot
  have hmaterial := snapshotBody_material (applyReportDayPolicy_material fun item hitem =>
    collected_material (hcollected item hitem)) hbody
  -- the version is bounded, and the other fields are copied
  split at hrest
  · rename_i hversion
    have hsame := Option.some.inj hrest
    have hcutoff : snapshot.cutoffAt = cutoffAt := by rw [← hsame]; rfl
    have hasOf : snapshot.asOf = asOf := by rw [← hsame]; rfl
    have hversionEq : snapshot.snapshotVersion = snapshotVersion := by rw [← hsame]; rfl
    have hprint : snapshot.fingerprintSha256 = snapshotFingerprint w snapshot.reportDate asOf
        cutoffAt snapshotVersion body policy := by
      rw [← hsame]
      rfl
    refine ⟨body, policy, ?_, ?_, ?_, ?_⟩
    · rw [hcutoff]
      exact hmaterial
    · rw [hversionEq]
      exact ⟨hversion.1, hversion.2.1, hversion.2.2.1⟩
    · rw [hprint]
      exact w.hexdigest _
    · rw [hcutoff, hasOf, hversionEq, hprint]
      exact hsame.symm
  -- a version out of bounds is refused
  · cases hrest

end MacroPlatform.Report
