import Mathlib.Data.List.Induction
import Mathlib.Order.Lattice

/-! # Histories of versions

A source is read again and again, and a version is stored only when a policy says that its
content is worth a row. Two policies: the content differs from the latest version's, or from
every stored version's.

* `changed_latest`: under the first policy the latest stored version has the latest content;
* `neverReturns_iff`: under the second exactly as long as no content returns;
* `known_stored`: looking back and storing commute.
-/

namespace History

universe u v w

variable {α : Type u} {κ : Type v} {τ : Type w}

/-- Every version became available after the ones before it. -/
def Increasing [LT τ] (availableAt : α → τ) (versions : List α) : Prop :=
  versions.Pairwise fun a b => availableAt a < availableAt b

/-- The versions that were available at a time. -/
def known [LE τ] [DecidableLE τ] (availableAt : α → τ) (asOf : τ) (versions : List α) : List α :=
  versions.filter (availableAt · ≤ asOf)

/-- A version is stored behind the earlier ones, or not at all. -/
def Appends (store : List α → α → List α) : Prop :=
  ∀ kept version, store kept version = kept ∨ store kept version = kept ++ [version]

/-- The first version of the run of equal contents that a history ends with. -/
def IsRunStart (content : α → κ) (versions : List α) (first : α) : Prop :=
  ∃ before run, versions = before ++ first :: run ∧
    (∀ version ∈ run, content version = content first) ∧
    ∀ version ∈ before.getLast?, content version ≠ content first

/-- No content comes back after another one. -/
def NeverReturns (content : α → κ) (versions : List α) : Prop :=
  ∀ before version after, versions = before ++ version :: after →
    content version ∈ before.map content → before.getLast?.map content = some (content version)

section Policies

variable [DecidableEq κ] (content : α → κ)

/-- Stores what differs from the latest version. -/
def storeChanged (kept : List α) (version : α) : List α :=
  if kept.getLast?.map content = some (content version) then kept else kept ++ [version]

/-- Stores what differs from every version. -/
def storeNew (kept : List α) (version : α) : List α :=
  if content version ∈ kept.map content then kept else kept ++ [version]

def changed (versions : List α) : List α := versions.foldl (storeChanged content) []

def new (versions : List α) : List α := versions.foldl (storeNew content) []

theorem storeChanged_appends : Appends (storeChanged content) := by
  intro kept version
  unfold storeChanged
  split_ifs
  · exact Or.inl rfl
  · exact Or.inr rfl

theorem storeNew_appends : Appends (storeNew content) := by
  intro kept version
  unfold storeNew
  split_ifs
  · exact Or.inl rfl
  · exact Or.inr rfl

theorem changed_append (versions : List α) (version : α) :
    changed content (versions ++ [version]) =
      storeChanged content (changed content versions) version := by
  unfold changed
  rw [List.foldl_append, List.foldl_cons, List.foldl_nil]

theorem new_append (versions : List α) (version : α) :
    new content (versions ++ [version]) = storeNew content (new content versions) version := by
  unfold new
  rw [List.foldl_append, List.foldl_cons, List.foldl_nil]

end Policies

/-- What is stored are versions of the history. -/
theorem stored_sublist {store : List α → α → List α} (hstore : Appends store)
    (versions : List α) : (versions.foldl store []).Sublist versions := by
  induction versions using List.reverseRecOn with
  | nil => exact List.Sublist.refl []
  | append_singleton versions version ih =>
    rw [List.foldl_append, List.foldl_cons, List.foldl_nil]
    rcases hstore (versions.foldl store []) version with hsame | hmore
    · rw [hsame]
      exact ih.trans (List.sublist_append_left versions [version])
    · rw [hmore]
      exact ih.append (List.Sublist.refl [version])

/-! ## What was known -/

section Known

variable [LinearOrder τ] {availableAt : α → τ}

/-- When the last version is known, all are. -/
theorem known_append_of_le {versions : List α} {version : α} {asOf : τ}
    (h : Increasing availableAt (versions ++ [version])) (hle : availableAt version ≤ asOf) :
    known availableAt asOf (versions ++ [version]) = versions ++ [version] := by
  unfold known
  apply List.filter_eq_self.mpr
  intro v hv
  refine decide_eq_true ?_
  rcases List.mem_append.mp hv with hold | hlast
  · have hlt := (List.pairwise_append.mp h).2.2 v hold version List.mem_cons_self
    exact hlt.le.trans hle
  · rw [List.mem_singleton.mp hlast]
    exact hle

theorem known_append_of_lt {versions : List α} {version : α} {asOf : τ}
    (hlt : asOf < availableAt version) :
    known availableAt asOf (versions ++ [version]) = known availableAt asOf versions := by
  have hversion : [version].filter (availableAt · ≤ asOf) = [] := by
    rw [List.filter_cons, if_neg, List.filter_nil]
    simpa using hlt
  unfold known
  rw [List.filter_append, hversion, List.append_nil]

/-- What was known is a first part of the history. -/
theorem known_front {versions : List α} (h : Increasing availableAt versions) (asOf : τ) :
    known availableAt asOf versions <+: versions := by
  induction versions using List.reverseRecOn with
  | nil => exact List.prefix_rfl
  | append_singleton versions version ih =>
    rcases le_or_gt (availableAt version) asOf with hle | hlt
    · have hall := known_append_of_le h hle
      exact hall.symm ▸ List.prefix_rfl
    · rw [known_append_of_lt hlt]
      have hprefix := ih (List.pairwise_append.mp h).1
      exact hprefix.trans (List.prefix_append versions [version])

/-- Every version was the latest one when it became available. -/
theorem known_split {before after : List α} {version : α}
    (h : Increasing availableAt (before ++ version :: after)) :
    known availableAt (availableAt version) (before ++ version :: after) = before ++ [version] := by
  obtain ⟨-, hafter, hcross⟩ := List.pairwise_append.mp h
  have hbefore : before.filter (availableAt · ≤ availableAt version) = before := by
    apply List.filter_eq_self.mpr
    intro v hv
    exact decide_eq_true (hcross v hv version List.mem_cons_self).le
  have hlater : after.filter (availableAt · ≤ availableAt version) = [] := by
    apply List.filter_eq_nil_iff.mpr
    intro v hv
    have hlt := (List.pairwise_cons.mp hafter).1 v hv
    simpa using hlt
  unfold known
  rw [List.filter_append, List.filter_cons, if_pos (decide_eq_true le_rfl), hbefore, hlater]

/-- Storing a history and looking back is looking back and storing what was known. -/
theorem known_stored {store : List α → α → List α} (hstore : Appends store)
    {versions : List α} (h : Increasing availableAt versions) (asOf : τ) :
    known availableAt asOf (versions.foldl store []) =
      (known availableAt asOf versions).foldl store [] := by
  -- induction on the history, whose last version is the latest
  induction versions using List.reverseRecOn with
  | nil => rfl
  | append_singleton versions version ih =>
    -- it was known, and then everything was
    rcases le_or_gt (availableAt version) asOf with hle | hlt
    · have hall := known_append_of_le h hle
      rw [hall]
      unfold known
      apply List.filter_eq_self.mpr
      intro v hv
      unfold known at hall
      exact List.filter_eq_self.mp hall v ((stored_sublist hstore _).subset hv)
    -- it was not: whether the store kept it, it is not looked at
    · have hbefore := ih (List.pairwise_append.mp h).1
      rw [known_append_of_lt hlt, ← hbefore, List.foldl_append, List.foldl_cons, List.foldl_nil]
      rcases hstore (versions.foldl store []) version with hsame | hmore
      · rw [hsame]
      · rw [hmore, known_append_of_lt hlt]

end Known

/-! ## What a policy keeps -/

section Kept

variable [DecidableEq κ] {content : α → κ}

/-- The latest stored version has the latest content. -/
theorem changed_latest (versions : List α) :
    (changed content versions).getLast?.map content = versions.getLast?.map content := by
  induction versions using List.reverseRecOn with
  | nil => rfl
  | append_singleton versions version _ =>
    rw [changed_append, List.getLast?_concat]
    unfold storeChanged
    split_ifs with hsame
    · exact hsame
    · rw [List.getLast?_concat]

/-- It is the first version with it. -/
theorem changed_isRunStart {versions : List α} {first : α}
    (h : (changed content versions).getLast? = some first) :
    IsRunStart content versions first := by
  -- induction on the history from its end
  induction versions using List.reverseRecOn with
  | nil => cases h
  | append_singleton versions version ih =>
    rw [changed_append] at h
    unfold storeChanged at h
    split_ifs at h with hsame
    · -- the run goes on
      obtain ⟨before, run, hsplit, hrun, hbefore⟩ := ih h
      have hversion : content version = content first := by
        rw [h] at hsame
        exact (Option.some.inj hsame).symm
      refine ⟨before, run ++ [version], ?_, ?_, hbefore⟩
      · rw [hsplit, List.append_assoc, List.cons_append]
      · intro v hv
        rcases List.mem_append.mp hv with hold | hlast
        · exact hrun v hold
        · rw [List.mem_singleton.mp hlast]
          exact hversion
    · -- a run begins
      rw [List.getLast?_concat, Option.some.injEq] at h
      subst h
      refine ⟨versions, [], rfl, by simp, ?_⟩
      intro v hv hcontent
      rw [changed_latest, hv, Option.map_some, hcontent] at hsame
      exact hsame rfl

/-- Dropping the versions that repeat a content loses no content. -/
theorem mem_contents_new (versions : List α) (c : κ) :
    c ∈ (new content versions).map content ↔ c ∈ versions.map content := by
  induction versions using List.reverseRecOn with
  | nil => rfl
  | append_singleton versions version ih =>
    rw [new_append, List.map_append, List.mem_append, ← ih]
    unfold storeNew
    split_ifs with hstored
    · constructor
      · exact Or.inl
      · rintro (hc | hc)
        · exact hc
        · rw [List.map_singleton, List.mem_singleton] at hc
          rw [hc]
          exact hstored
    · rw [List.map_append, List.mem_append]

theorem new_append_of_mem {versions : List α} {version : α}
    (h : content version ∈ versions.map content) :
    new content (versions ++ [version]) = new content versions := by
  rw [new_append]
  unfold storeNew
  rw [if_pos ((mem_contents_new versions _).mpr h)]

/-- The first version is always stored. -/
theorem new_head? (versions : List α) : (new content versions).head? = versions.head? := by
  induction versions using List.reverseRecOn with
  | nil => rfl
  | append_singleton versions version ih =>
    rw [List.head?_append]
    by_cases hmem : content version ∈ versions.map content
    · rw [new_append_of_mem hmem, ih]
      cases versions with
      | nil => cases hmem
      | cons first later => rfl
    · have hnew : content version ∉ (new content versions).map content :=
        fun hstored => hmem ((mem_contents_new versions _).mp hstored)
      rw [new_append]
      unfold storeNew
      rw [if_neg hnew, List.head?_append, ih]

omit [DecidableEq κ] in
theorem neverReturns_front {versions start : List α} (h : NeverReturns content versions)
    (hstart : start <+: versions) : NeverReturns content start := by
  obtain ⟨rest, rfl⟩ := hstart
  rintro before version after rfl hmem
  exact h before version (after ++ rest) (by simp) hmem

omit [DecidableEq κ] in
theorem neverReturns_of_nodup {versions : List α} (h : (versions.map content).Nodup) :
    NeverReturns content versions := by
  rintro before version after rfl hmem
  rw [List.map_append, List.map_cons, List.nodup_append] at h
  exact absurd rfl (h.2.2 _ hmem _ List.mem_cons_self)

/-- Different contents are all stored. -/
theorem new_of_nodup {versions : List α} (h : (versions.map content).Nodup) :
    new content versions = versions := by
  induction versions using List.reverseRecOn with
  | nil => rfl
  | append_singleton versions version ih =>
    rw [List.map_append, List.nodup_append] at h
    rcases h with ⟨hbefore, -, hcross⟩
    have hnew : content version ∉ (new content versions).map content := by
      intro hmem
      have hearlier := (mem_contents_new versions _).mp hmem
      exact hcross _ hearlier (content version) List.mem_cons_self rfl
    rw [new_append]
    unfold storeNew
    rw [if_neg hnew, ih hbefore]

/-- As long as no content returns, the latest stored version has the latest content. -/
theorem new_latest {versions : List α} (h : NeverReturns content versions) :
    (new content versions).getLast?.map content = versions.getLast?.map content := by
  induction versions using List.reverseRecOn with
  | nil => rfl
  | append_singleton versions version ih =>
    have hbefore := ih (neverReturns_front h (List.prefix_append versions [version]))
    rw [List.getLast?_concat, Option.map_some]
    by_cases hmem : content version ∈ versions.map content
    · rw [new_append_of_mem hmem, hbefore]
      exact h versions version [] rfl hmem
    · have hnew : content version ∉ (new content versions).map content :=
        fun hstored => hmem ((mem_contents_new versions _).mp hstored)
      rw [new_append]
      unfold storeNew
      rw [if_neg hnew, List.getLast?_concat, Option.map_some]

/-- And only as long as that. -/
theorem neverReturns_iff [LinearOrder τ] {availableAt : α → τ} {versions : List α}
    (hincreasing : Increasing availableAt versions) :
    NeverReturns content versions ↔ ∀ asOf : τ,
      (new content (known availableAt asOf versions)).getLast?.map content =
        (known availableAt asOf versions).getLast?.map content := by
  constructor
  · intro h asOf
    exact new_latest (neverReturns_front h (known_front hincreasing asOf))
  · rintro h before version after rfl hmem
    have hversion := h (availableAt version)
    rw [known_split hincreasing, new_append_of_mem hmem, List.getLast?_concat,
      Option.map_some] at hversion
    -- what was known just before has an older latest version
    rcases List.eq_nil_or_concat before with rfl | ⟨earlier, latest, rfl⟩
    · cases hmem
    · rw [List.concat_eq_append] at hmem hversion hincreasing h ⊢
      have hsplit : earlier ++ [latest] ++ version :: after =
          earlier ++ latest :: (version :: after) := by simp
      rw [hsplit] at hincreasing h
      have hlatest := h (availableAt latest)
      rw [known_split hincreasing, hversion] at hlatest
      exact hlatest.symm

end Kept

/-! ## Stored versions

The first version has a row of one kind, and the later ones have rows of another kind that
refer to it. -/

section Versions

variable {ρ : Type*} {base : α → ρ} {revision : α → α → ρ}

/-- The versions as they are read back. -/
def versionsOf (base : α → ρ) (revision : α → α → ρ) : List α → List ρ
  | [] => []
  | first :: later => base first :: later.map (revision first)

/-- What every version shows of the one it stores. -/
theorem versionsOf_map {σ : Type*} {shown : ρ → σ} {stored : α → σ}
    (hbase : ∀ a, shown (base a) = stored a) (hrevision : ∀ a b, shown (revision a b) = stored b)
    (versions : List α) :
    (versionsOf base revision versions).map shown = versions.map stored := by
  cases versions with
  | nil => rfl
  | cons first later =>
    unfold versionsOf
    rw [List.map_cons, List.map_cons, List.map_map, hbase]
    congr 1
    apply List.map_congr_left
    intro v _
    exact hrevision first v

variable [LinearOrder τ] {availableAt : α → τ} {shownAt : ρ → τ}

theorem versionsOf_increasing (hbase : ∀ a, shownAt (base a) = availableAt a)
    (hrevision : ∀ a b, shownAt (revision a b) = availableAt b) {versions : List α}
    (h : Increasing availableAt versions) :
    Increasing shownAt (versionsOf base revision versions) := by
  have hmap := List.pairwise_map.mpr h
  rw [← versionsOf_map hbase hrevision] at hmap
  exact List.pairwise_map.mp hmap

/-- Of the versions as they are read back, those available are the ones that were known. -/
theorem versionsOf_known (hbase : ∀ a, shownAt (base a) = availableAt a)
    (hrevision : ∀ a b, shownAt (revision a b) = availableAt b) {versions : List α}
    (h : Increasing availableAt versions) (asOf : τ) :
    known shownAt asOf (versionsOf base revision versions) =
      versionsOf base revision (known availableAt asOf versions) := by
  cases versions with
  | nil => rfl
  | cons first later =>
    have hlater : known shownAt asOf (later.map (revision first)) =
        (known availableAt asOf later).map (revision first) := by
      unfold known
      rw [List.filter_map]
      congr 1
      apply List.filter_congr
      intro v _
      rw [Function.comp_apply, hrevision]
    unfold versionsOf
    unfold known at hlater ⊢
    rw [List.filter_cons, List.filter_cons, hlater, hbase]
    by_cases hfirst : availableAt first ≤ asOf
    · rw [if_pos (decide_eq_true hfirst), if_pos (decide_eq_true hfirst)]
    · -- what came after the first version was not known either
      have hnone : later.filter (availableAt · ≤ asOf) = [] := by
        apply List.filter_eq_nil_iff.mpr
        intro v hv
        have hlt := (List.pairwise_cons.mp h).1 v hv
        simpa using (lt_of_not_ge hfirst).trans hlt
      rw [if_neg (by simpa using hfirst), if_neg (by simpa using hfirst), hnone]
      rfl

end Versions

end History
