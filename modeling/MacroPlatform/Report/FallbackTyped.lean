import MacroPlatform.Report.FallbackContent

/-! # A fallback section as the contract reads it

What the builder wrote in a section is read back field by field. The section is valid when the
facts that it shows fit its limit, and then refers only to what the snapshot holds.

* `ContentOf.read`: a section is read as it was written;
* `ContentOf.count`: its count is the one of the contract;
* `sectionPayload_refers`: it refers to what the snapshot holds.
-/

namespace MacroPlatform.Report

open Daily

variable {w : Writing} {pydantic : Pydantic} {python : Python}
variable {snapshot : ReportInputSnapshot Json} {body : SnapshotBody}
variable {policy : ReportDayPolicyResult}
variable {content : SectionContent} {facts sources : List Json}

/-- The fields of a section that the contract reads. -/
def typedSection (python : Python) (sectionId : String) (maxCharacters : ℕ)
    (content : SectionContent) (facts : List Json) : SectionFields where
  sectionId
  status := content.status
  characterCount := content.visibleLength python
  maxCharacters
  text := content.text
  factIds := sortedSet (content.items.flatMap (nestedReferenceIds "fact_ids"))
  sourceRefIds := sortedSet (content.items.flatMap (nestedReferenceIds "source_ref_ids"))
  items := content.items
  claims := (facts.filter fun raw => isGiven (raw.get "value")).map typedClaim
  lookaheadDays := content.lookaheadDays
  issueCodes := content.issueCodes
  reasonCode := content.reasonCode

/-! ## The fields -/

/-- A section writes only keys of the contract. -/
theorem sectionPayload_keys (python : Python) (sectionId : String) (maxCharacters : ℕ)
    (content : SectionContent) : KnowsKeys ["section_id", "status", "character_count",
      "max_characters", "text", "fact_ids", "source_ref_ids", "items", "claims",
      "lookahead_days", "issue_codes", "reason_code"]
        (sectionPayload python sectionId maxCharacters content) := by
  -- an optional field adds its own key or none
  have hgiven : ∀ {given : Bool} {key other : String} {value : Json},
      other ∈ (whenGiven given key value).map Prod.fst → other = key := by
    intro given key other value hmem
    unfold whenGiven at hmem
    cases given with
    | false => cases hmem
    | true => exact List.mem_singleton.mp hmem
  intro key hkey
  unfold sectionPayload Json.keys at hkey
  simp only [List.map_append, List.mem_append] at hkey
  rcases hkey with (((((((hkey | hkey) | hkey) | hkey) | hkey) | hkey) | hkey) | hkey)
  -- the fields that are always there
  · simp only [List.map_cons, List.map_nil] at hkey
    revert key
    decide
  -- the optional ones
  all_goals
    rw [hgiven hkey]
    decide

theorem shownItem_stripped (raw : Json) : strippedDict (shownItem raw) = some (shownItem raw) := by
  refine strippedDict_obj ?_ ?_
  · simp
  · simp only [List.map_cons, List.map_nil]
    decide +kernel

theorem sourceReference_stripped (cited : CitedSource) :
    strippedDict (sourceReference w cited) = some (sourceReference w cited) := by
  refine strippedDict_obj ?_ ?_
  · simp
  · simp only [List.map_cons, List.map_nil]
    decide +kernel

theorem ContentOf.item_stripped (h : ContentOf snapshot body content facts sources)
    (hsnapshot : SnapshotOf w python snapshot body policy) {item : Json}
    (hitem : item ∈ content.items) : strippedDict item = some item := by
  rcases h.cases_item hitem with ⟨raw, -, rfl⟩ | ⟨source, hsource, rfl⟩
  · exact shownItem_stripped raw
  · obtain ⟨cited, rfl, -⟩ := hsnapshot.cited (h.cited source hsource)
    rw [sourceItem_eq]
    exact sourceReference_stripped cited

/-- The claim of a fact is read as its typed claim. -/
theorem ShownFact.claim_read {raw : Json} (h : ShownFact snapshot body raw) :
    ReportClaim.modelValidate pydantic (shownClaim raw) = some (typedClaim raw) := by
  obtain ⟨unit, hunit⟩ := h.unit
  have hid := text_str h.isId.stripped (one_le_length h.isId.nonempty)
  have hread : ((shownClaim raw).get "unit").toOption? (text 0) =
      some ((raw.get "unit").toStr?.map modelStrip) := by
    show (raw.get "unit").toOption? (text 0) = _
    rw [hunit]
    cases unit with
    | none => rfl
    | some value => rfl
  unfold ReportClaim.modelValidate
  have hkeys : KnowsKeys ["claim_type", "fact_id", "value", "unit", "direction",
      "period_start", "period_end"] (shownClaim raw) := by
    intro key hkey
    exact hkey
  have hvalue : "value" ∈ (shownClaim raw).keys := by
    show "value" ∈ ["claim_type", "fact_id", "value", "unit", "direction", "period_start",
      "period_end"]
    decide
  simp only [Option.bind_eq_bind, Option.bind_eq_some_iff, Option.guard_eq_some', exists_const]
  exact ⟨hkeys, .text, rfl, _, hid, hvalue, _, hread, none, rfl, none, rfl, none, rfl, rfl⟩

theorem stripped_map {values : List String} (h : ∀ value ∈ values, modelStrip value = value) :
    values.map modelStrip = values :=
  (List.map_congr_left h).trans (List.map_id values)

theorem ContentOf.factId_known (h : ContentOf snapshot body content facts sources)
    (hsnapshot : SnapshotOf w python snapshot body policy) {id : String}
    (hid : id ∈ content.items.flatMap (nestedReferenceIds "fact_ids")) :
    ∃ raw ∈ facts, shownText raw "fact_id" = id := by
  obtain ⟨item, hitem, hnested⟩ := List.mem_flatMap.mp hid
  exact (h.item_factIds hsnapshot hitem).nested hnested

theorem ContentOf.sourceId_known (h : ContentOf snapshot body content facts sources)
    (hsnapshot : SnapshotOf w python snapshot body policy) {id : String}
    (hid : id ∈ content.items.flatMap (nestedReferenceIds "source_ref_ids")) :
    id ∈ body.sourceReferences.map Prod.fst := by
  obtain ⟨item, hitem, hnested⟩ := List.mem_flatMap.mp hid
  exact (h.item_sourceIds hsnapshot hitem).nested hnested

theorem toOption?_text {value : Option String} (h : ∀ s ∈ value, modelStrip s = s) :
    (Json.ofOption .str value).toOption? (text 0) = some value := by
  cases value with
  | none => rfl
  | some s =>
    show (text 0 (.str s)).map some = some (some s)
    rw [text_str (h s rfl) (Nat.zero_le _)]
    rfl

/-- The section is read as it was written. -/
theorem ContentOf.read (h : ContentOf snapshot body content facts sources)
    (hsnapshot : SnapshotOf w python snapshot body policy) {sectionId : String}
    {maxCharacters : ℕ} (hid : IsId sectionId) (hlimit : 1 ≤ maxCharacters) :
    SectionFields.read pydantic (sectionPayload python sectionId maxCharacters content) =
      some (typedSection python sectionId maxCharacters content facts) := by
  have hreads := sectionPayload_reads python sectionId maxCharacters content
  -- the references and the codes are stripped already, so the contract leaves them as they are
  have hfactIds : ∀ id ∈ sortedSet (content.items.flatMap (nestedReferenceIds "fact_ids")),
      modelStrip id = id := by
    intro id hmem
    obtain ⟨raw, hraw, rfl⟩ := h.factId_known hsnapshot (mem_sortedSet.mp hmem)
    exact (h.shown raw hraw).isId.stripped
  have hsourceIds : ∀ id ∈ sortedSet (content.items.flatMap
      (nestedReferenceIds "source_ref_ids")), modelStrip id = id := by
    intro id hmem
    exact (hsnapshot.sourceId_stripped (h.sourceId_known hsnapshot (mem_sortedSet.mp hmem))).stripped
  have hitems : content.items.mapM strippedDict = some content.items := by
    have hmap := Raising.mapM_some_map fun item hitem => h.item_stripped hsnapshot hitem
    rw [List.map_id'] at hmap
    exact hmap
  have hclaims : content.claims.mapM (ReportClaim.modelValidate pydantic) =
      some ((facts.filter fun raw => isGiven (raw.get "value")).map typedClaim) := by
    rw [h.claims, List.mapM_map]
    refine Raising.mapM_some_map ?_
    intro raw hraw
    exact (h.shown raw (List.mem_filter.mp hraw).1).claim_read
  have htext : ∀ sectionText ∈ content.text, modelStrip sectionText = sectionText :=
    fun sectionText hmem => (h.words sectionText hmem).2.2.1
  refine SectionFields.read_some.mpr ⟨sectionPayload_keys python sectionId maxCharacters content,
    ?_, ?_, ?_, ?_, ?_, ?_, ?_, ?_, ?_, ?_, ?_, ?_⟩
  -- the fields, in the order of the contract
  · rw [hreads.sectionId]
    exact text_str hid.stripped (one_le_length hid.nonempty)
  · rw [hreads.status]
    show _ = some content.status
    cases content.status <;> rfl
  · rw [hreads.characterCount]
    show natural pydantic 0 _ = some (content.visibleLength python)
    simp [natural]
  · rw [hreads.maxCharacters]
    show natural pydantic 1 _ = some maxCharacters
    simp [natural, hlimit]
  · rw [hreads.text]
    exact toOption?_text htext
  · rw [hreads.factIds, listOf_strings, stripped_map hfactIds]
    rfl
  · rw [hreads.sourceRefIds, listOf_strings, stripped_map hsourceIds]
    rfl
  · rw [hreads.items]
    exact hitems
  · rw [hreads.claims]
    exact hclaims
  · rw [hreads.lookaheadDays]
    show _ = some content.lookaheadDays
    cases content.lookaheadDays with
    | none => rfl
    | some days => simp [Json.ofOption, Json.toOption?, natural]
  · rw [hreads.issueCodes, listOf_strings, stripped_map h.issueCodes]
    rfl
  · rw [hreads.reasonCode]
    exact toOption?_text h.reasonCode

/-! ## The visible text -/

theorem visibleLength_none (items : List Json) : visibleLength none items =
    (items.map fun item => ((itemTexts item).map String.length).sum).sum := by
  induction items with
  | nil => rfl
  | cons item items ih =>
    have hcons : visibleLength none (item :: items) =
        ((itemTexts item).map String.length).sum + visibleLength none items := by
      unfold visibleLength visibleTexts
      simp
    rw [hcons, ih, List.map_cons, List.sum_cons]

theorem sum_flatMap {α : Type} (f : α → List ℕ) (xs : List α) :
    (xs.flatMap f).sum = (xs.map fun x => (f x).sum).sum := by
  induction xs with
  | nil => rfl
  | cons x xs ih => rw [List.flatMap_cons, List.sum_append, ih, List.map_cons, List.sum_cons]

/-- The builder counts of an item what the contract counts. -/
theorem ContentOf.item_length (h : ContentOf snapshot body content facts sources)
    (hsnapshot : SnapshotOf w python snapshot body policy) {item : Json}
    (hitem : item ∈ content.items) :
    (["label", "text", "name"].map fun fieldName =>
      (pyString python (item.get fieldName (.str ""))).length).sum =
    ((itemTexts item).map String.length).sum := by
  rcases h.cases_item hitem with ⟨raw, -, rfl⟩ | ⟨source, hsource, rfl⟩
  · rfl
  · obtain ⟨cited, rfl, -⟩ := hsnapshot.cited (h.cited source hsource)
    rw [sourceItem_eq]
    rfl

/-- The visible length of the items is that of the facts. -/
theorem ContentOf.items_length (h : ContentOf snapshot body content facts sources)
    (hsnapshot : SnapshotOf w python snapshot body policy) :
    visibleLength none content.items = (facts.map shownLength).sum := by
  have hfacts : (facts.map shownItem).map (fun item => ((itemTexts item).map String.length).sum) =
      facts.map shownLength := by
    rw [List.map_map]
    rfl
  have hsources : ((sources.map sourceItem).map fun item =>
      ((itemTexts item).map String.length).sum).sum = 0 := by
    rw [List.map_map, List.sum_eq_zero_iff_forall_eq_nat]
    intro n hn
    obtain ⟨source, hsource, rfl⟩ := List.mem_map.mp hn
    obtain ⟨cited, rfl, -⟩ := hsnapshot.cited (h.cited source hsource)
    rfl
  rw [visibleLength_none, h.items, List.map_append, List.sum_append, hfacts, hsources]
  exact Nat.add_zero _

/-- The count that the builder writes is the one that the contract makes. -/
theorem ContentOf.count (h : ContentOf snapshot body content facts sources)
    (hsnapshot : SnapshotOf w python snapshot body policy) :
    visibleLength content.text content.items = content.visibleLength python := by
  unfold SectionContent.visibleLength
  cases htext : content.text with
  | none =>
    show visibleLength none content.items = _
    simp only
    rw [sum_flatMap, visibleLength_none]
    exact congrArg List.sum (List.map_congr_left fun item hitem =>
      (h.item_length hsnapshot hitem).symm)
  | some sectionText =>
    obtain ⟨hfacts, hsources, -⟩ := h.words sectionText htext
    have hitems : content.items = [] := by
      rw [h.items, hfacts, hsources]
      rfl
    rw [hitems]
    simp [visibleLength, visibleTexts]

/-- A section is valid when its facts fit. -/
theorem ContentOf.visibleText (h : ContentOf snapshot body content facts sources)
    (hsnapshot : SnapshotOf w python snapshot body policy) {sectionId : String}
    {maxCharacters : ℕ} (hlimit : (sectionId, maxCharacters) ∈ sectionLimits)
    (hfits : (facts.map shownLength).sum ≤ maxCharacters) :
    (typedSection python sectionId maxCharacters content facts).VisibleText := by
  have hcount := h.count hsnapshot
  refine ⟨hcount, ?_, ?_⟩
  -- the limit of the contract is the one that the builder wrote
  · intro limit hfound
    have hlookup : ∀ entry ∈ sectionLimits, sectionLimits.lookup entry.1 = some entry.2 := by
      decide
    have hfound : limit ∈ sectionLimits.lookup sectionId := hfound
    rw [hlookup (sectionId, maxCharacters) hlimit] at hfound
    exact Nat.le_of_eq (Option.some.inj hfound)
  -- a text has at most 600 characters, within every limit; items have the length of their facts
  · show content.visibleLength python ≤ maxCharacters
    have hroom : ∀ entry ∈ sectionLimits, 600 ≤ entry.2 := by decide
    have hshort := hroom (sectionId, maxCharacters) hlimit
    rw [← hcount]
    cases htext : content.text with
    | none =>
      rw [h.items_length hsnapshot]
      exact hfits
    | some sectionText =>
      obtain ⟨hfacts, hsources, -, hlength⟩ := h.words sectionText htext
      have hitems : content.items = [] := by
        rw [h.items, hfacts, hsources]
        rfl
      rw [hitems]
      have hsame : visibleLength (some sectionText) [] = sectionText.length := by
        simp [visibleLength, visibleTexts]
      rw [hsame]
      omega

/-! ## References -/

/-- A dict whose values have no references but in its items. -/
theorem typedSection_refers {fieldName : String} {known : String → Prop} {sectionId : String}
    {maxCharacters : ℕ} {ids : List String}
    (hids : (typedSection python sectionId maxCharacters content facts).modelDump.get fieldName =
      strings ids) (hknown : ∀ id ∈ ids, known id)
    (hfield : fieldName ∈ ["fact_ids", "source_ref_ids"])
    (hvalues : ∀ raw ∈ facts, IsScalar (raw.get "value"))
    (hitems : ∀ item ∈ content.items, RefersOnly fieldName known item) :
    RefersOnly fieldName known
      (typedSection python sectionId maxCharacters content facts).modelDump := by
  have hclaims : RefersOnly fieldName known
      (.arr (((facts.filter fun raw => isGiven (raw.get "value")).map typedClaim).map
        ReportClaim.modelDump)) := by
    refine refersOnly_arr.mpr ?_
    intro claim hclaim
    obtain ⟨typed, htyped, rfl⟩ := List.mem_map.mp hclaim
    obtain ⟨raw, hraw, rfl⟩ := List.mem_map.mp htyped
    have hnull : (typedClaim raw).modelDump.get fieldName = .null := by
      rcases List.mem_cons.mp hfield with rfl | hsource
      · rfl
      · rw [List.mem_singleton.mp hsource]
        rfl
    refine refersOnly_of_null hnull ?_
    simp only [List.forall_mem_cons]
    refine ⟨refersOnly_scalar (scalar_literalText _ _), refersOnly_scalar (scalar_str _),
      refersOnly_scalar (hvalues raw (List.mem_filter.mp hraw).1),
      refersOnly_scalar (scalar_ofOption scalar_str _),
      refersOnly_scalar (scalar_ofOption scalar_str _),
      refersOnly_scalar (scalar_ofOption (fun _ => scalar_str _) _),
      refersOnly_scalar (scalar_ofOption (fun _ => scalar_str _) _),
      fun _ hfield => absurd hfield List.not_mem_nil⟩
  refine refersOnly_of_strings hids hknown ?_
  simp only [List.forall_mem_cons]
  refine ⟨refersOnly_scalar (scalar_str _), refersOnly_scalar (scalar_literalText _ _),
    refersOnly_scalar (scalar_int _), refersOnly_scalar (scalar_int _),
    refersOnly_scalar (scalar_ofOption scalar_str _), refersOnly_strings _, refersOnly_strings _,
    refersOnly_arr.mpr hitems, hclaims,
    refersOnly_scalar (scalar_ofOption (fun _ => scalar_int _) _), refersOnly_strings _,
    refersOnly_scalar (scalar_ofOption scalar_str _),
    fun _ hfield => absurd hfield List.not_mem_nil⟩

theorem ShownFact.scalar {raw : Json} (h : ShownFact snapshot body raw) :
    IsScalar (raw.get "value") := by
  obtain ⟨value, hvalue⟩ := h.value
  rw [hvalue]
  exact scalar_ofOption scalar_str value

/-- A section refers to the facts that it shows. -/
theorem ContentOf.modelDump_factIds (h : ContentOf snapshot body content facts sources)
    (hsnapshot : SnapshotOf w python snapshot body policy) (sectionId : String)
    (maxCharacters : ℕ) :
    RefersOnly "fact_ids" (fun id => ∃ raw ∈ facts, shownText raw "fact_id" = id)
      (typedSection python sectionId maxCharacters content facts).modelDump := by
  refine typedSection_refers rfl ?_ (by simp) (fun raw hraw => (h.shown raw hraw).scalar)
    fun item hitem => h.item_factIds hsnapshot hitem
  intro id hid
  exact h.factId_known hsnapshot (mem_sortedSet.mp hid)

/-- A section refers to sources of the snapshot. -/
theorem ContentOf.modelDump_sourceIds (h : ContentOf snapshot body content facts sources)
    (hsnapshot : SnapshotOf w python snapshot body policy) (sectionId : String)
    (maxCharacters : ℕ) :
    RefersOnly "source_ref_ids" (· ∈ body.sourceReferences.map Prod.fst)
      (typedSection python sectionId maxCharacters content facts).modelDump := by
  refine typedSection_refers rfl ?_ (by simp) (fun raw hraw => (h.shown raw hraw).scalar)
    fun item hitem => h.item_sourceIds hsnapshot hitem
  intro id hid
  exact h.sourceId_known hsnapshot (mem_sortedSet.mp hid)

/-- What the builder wrote refers to no more. -/
theorem sectionPayload_refers {fieldName : String} {known : String → Prop} {sectionId : String}
    {maxCharacters : ℕ} {ids : List String}
    (hids : (sectionPayload python sectionId maxCharacters content).get fieldName (.arr []) =
      strings ids) (hknown : ∀ id ∈ ids, known id)
    (hclaims : RefersOnly fieldName known (.arr content.claims))
    (hitems : ∀ item ∈ content.items, RefersOnly fieldName known item) :
    RefersOnly fieldName known (sectionPayload python sectionId maxCharacters content) := by
  have hgiven : ∀ {given : Bool} {key : String} {value : Json}, RefersOnly fieldName known value →
      ∀ field ∈ whenGiven given key value, RefersOnly fieldName known field.2 := by
    intro given key value hvalue field hmem
    unfold whenGiven at hmem
    cases given with
    | false => cases hmem
    | true =>
      rw [List.mem_singleton.mp hmem]
      exact hvalue
  have hfields : ∀ fields, sectionPayload python sectionId maxCharacters content = .obj fields →
      ∀ field ∈ fields, RefersOnly fieldName known field.2 := by
    intro fields hobj field hmem
    have hsame := Json.obj.inj hobj
    rw [← hsame] at hmem
    simp only [List.mem_append] at hmem
    rcases hmem with (((((((hmem | hmem) | hmem) | hmem) | hmem) | hmem) | hmem) | hmem)
    · revert field
      simp only [List.forall_mem_cons]
      exact ⟨refersOnly_scalar (scalar_str _), refersOnly_scalar (scalar_literalText _ _),
        refersOnly_scalar (scalar_int _), refersOnly_scalar (scalar_int _),
        refersOnly_arr.mpr hitems, fun _ hfield => absurd hfield List.not_mem_nil⟩
    · exact hgiven (refersOnly_strings _) field hmem
    · exact hgiven (refersOnly_strings _) field hmem
    · exact hgiven (refersOnly_scalar (scalar_ofOption scalar_str _)) field hmem
    · exact hgiven hclaims field hmem
    · exact hgiven (refersOnly_scalar (scalar_ofOption (fun _ => scalar_int _) _)) field hmem
    · exact hgiven (refersOnly_strings _) field hmem
    · exact hgiven (refersOnly_scalar (scalar_ofOption scalar_str _)) field hmem
  cases hpayload : sectionPayload python sectionId maxCharacters content with
  | obj fields =>
    rw [hpayload] at hids
    -- without references of its own the key is left out
    rcases (Json.obj fields).get_default fieldName (.arr []) with hkey | ⟨hnull, -⟩
    · exact refersOnly_of_strings (hkey.symm.trans hids) hknown (hfields fields hpayload)
    · exact refersOnly_of_null hnull (hfields fields hpayload)
  | _ => cases hpayload

/-- A claim names nothing in a list. -/
theorem ContentOf.claims_refer (h : ContentOf snapshot body content facts sources)
    {fieldName : String} {known : String → Prop}
    (hfield : fieldName ∈ ["fact_ids", "source_ref_ids"]) :
    RefersOnly fieldName known (.arr content.claims) := by
  refine refersOnly_arr.mpr ?_
  intro claim hclaim
  rw [h.claims] at hclaim
  obtain ⟨raw, hraw, rfl⟩ := List.mem_map.mp hclaim
  have hshown := h.shown raw (List.mem_filter.mp hraw).1
  obtain ⟨unit, hunit⟩ := hshown.unit
  have hnull : (shownClaim raw).get fieldName = .null := by
    rcases List.mem_cons.mp hfield with rfl | hsource
    · rfl
    · rw [List.mem_singleton.mp hsource]
      rfl
  refine refersOnly_of_null hnull ?_
  simp only [List.forall_mem_cons]
  rw [hunit]
  exact ⟨refersOnly_scalar (scalar_str _), refersOnly_scalar (scalar_str _),
    refersOnly_scalar hshown.scalar, refersOnly_scalar (scalar_ofOption scalar_str _),
    refersOnly_scalar ⟨rfl, rfl⟩, refersOnly_scalar ⟨rfl, rfl⟩, refersOnly_scalar ⟨rfl, rfl⟩,
    fun _ hfield => absurd hfield List.not_mem_nil⟩

theorem ContentOf.payload_factIds (h : ContentOf snapshot body content facts sources)
    (hsnapshot : SnapshotOf w python snapshot body policy) (sectionId : String)
    (maxCharacters : ℕ) :
    RefersOnly "fact_ids" (fun id => ∃ raw ∈ facts, shownText raw "fact_id" = id)
      (sectionPayload python sectionId maxCharacters content) := by
  refine sectionPayload_refers (sectionPayload_reads python sectionId maxCharacters content).factIds
    ?_ (h.claims_refer (by simp)) fun item hitem => h.item_factIds hsnapshot hitem
  intro id hid
  exact h.factId_known hsnapshot (mem_sortedSet.mp hid)

theorem ContentOf.payload_sourceIds (h : ContentOf snapshot body content facts sources)
    (hsnapshot : SnapshotOf w python snapshot body policy) (sectionId : String)
    (maxCharacters : ℕ) :
    RefersOnly "source_ref_ids" (· ∈ body.sourceReferences.map Prod.fst)
      (sectionPayload python sectionId maxCharacters content) := by
  refine sectionPayload_refers
    (sectionPayload_reads python sectionId maxCharacters content).sourceRefIds
    ?_ (h.claims_refer (by simp)) fun item hitem => h.item_sourceIds hsnapshot hitem
  intro id hid
  exact h.sourceId_known hsnapshot (mem_sortedSet.mp hid)

end MacroPlatform.Report
