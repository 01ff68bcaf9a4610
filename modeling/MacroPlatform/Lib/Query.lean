import Mathlib.Data.List.Sort
import Mathlib.Data.Prod.Lex
import Mathlib.Algebra.Order.Ring.Int

/-! # Queries over lists of rows

The part of SQL that a window function and an `ORDER BY` need. How a database orders the
rows that its columns leave tied, and how it collates text, is not said by a statement: an
`Engine` is any choice of the two.

* `Engine.mem_rankedFirst_iff`: without ties the engine has no say in what is ranked first;
* `Engine.orderBy_filter`: leaving rows out does not reorder the rest;
* `mem_take_iff`: what a limit keeps.
-/

namespace Query

universe u v

variable {ρ : Type u} {κ : Type v}

/-- How two rows are ordered by the columns of an `ORDER BY`. -/
abbrev SortKey (ρ : Type u) := ρ → ρ → Ordering

/-- A column in ascending order. -/
def asc (cmp : κ → κ → Ordering) (f : ρ → κ) : SortKey ρ := fun a b => cmp (f a) (f b)

/-- A column in descending order. -/
def desc (cmp : κ → κ → Ordering) (f : ρ → κ) : SortKey ρ := fun a b => cmp (f b) (f a)

/-- A nullable column: a null comes after every value. -/
def nullsLast (cmp : κ → κ → Ordering) : Option κ → Option κ → Ordering
  | some a, some b => cmp a b
  | some _, none => .lt
  | none, some _ => .gt
  | none, none => .eq

/-- One column after another. -/
def lexicographic (keys : List (SortKey ρ)) : SortKey ρ := fun a b =>
  keys.foldr (fun key o => (key a b).then o) .eq

/-- A database: its collation, and an order for the rows that tie. -/
structure Engine where
  collate : String → String → Ordering
  collate_trans : Std.TransCmp collate
  collate_eq : Std.LawfulEqCmp collate
  orderBy : {ρ : Type} → SortKey ρ → List ρ → List ρ
  orderBy_perm : ∀ {ρ : Type} (key : SortKey ρ) (rows : List ρ), (orderBy key rows).Perm rows
  orderBy_sorted : ∀ {ρ : Type} (key : SortKey ρ) [Std.TransCmp key] (rows : List ρ),
    (orderBy key rows).Pairwise fun a b => (key a b).isLE

/-- The rows that come first among those with their key. -/
def firstPerKey [DecidableEq κ] (key : ρ → κ) : List ρ → List ρ
  | [] => []
  | row :: rows => row :: (firstPerKey key rows).filter fun r => key r ≠ key row

/-- `row_number() OVER (PARTITION BY ... ORDER BY ...) = 1`. -/
def Engine.rankedFirst {ρ : Type} [DecidableEq κ] (engine : Engine) (key : ρ → κ)
    (order : SortKey ρ) (rows : List ρ) : List ρ :=
  firstPerKey key (engine.orderBy order rows)

/-- `DISTINCT`. -/
def distinct [DecidableEq ρ] (rows : List ρ) : List ρ := firstPerKey id rows

/-! ## Orders -/

instance {cmp : κ → κ → Ordering} {f : ρ → κ} [Std.TransCmp cmp] : Std.TransCmp (asc cmp f) where
  eq_swap {a b} := by
    have hswap : cmp (f a) (f b) = (cmp (f b) (f a)).swap := Std.OrientedCmp.eq_swap
    exact hswap
  isLE_trans {a b c} hab hbc := by
    have htrans : (cmp (f a) (f c)).isLE := Std.TransCmp.isLE_trans (b := f b) hab hbc
    exact htrans

instance {cmp : κ → κ → Ordering} {f : ρ → κ} [Std.TransCmp cmp] : Std.TransCmp (desc cmp f) :=
  inferInstanceAs (Std.TransCmp fun a b => asc cmp f b a)

instance {cmp : κ → κ → Ordering} [Std.TransCmp cmp] : Std.TransCmp (nullsLast cmp) where
  eq_swap {a b} := by
    cases a with
    | none => cases b <;> rfl
    | some a =>
      cases b with
      | none => rfl
      | some b =>
        have hswap : cmp a b = (cmp b a).swap := Std.OrientedCmp.eq_swap
        exact hswap
  isLE_trans {a b c} hab hbc := by
    cases a with
    | none =>
      cases b with
      | none => exact hbc
      | some b => cases hab
    | some a =>
      cases c with
      | none => rfl
      | some c =>
        cases b with
        | none => cases hbc
        | some b =>
          have htrans : (cmp a c).isLE := Std.TransCmp.isLE_trans (b := b) hab hbc
          exact htrans

instance : Std.TransCmp (lexicographic ([] : List (SortKey ρ))) where
  eq_swap := rfl
  isLE_trans _ _ := rfl

instance {key : SortKey ρ} {keys : List (SortKey ρ)} [Std.TransCmp key]
    [Std.TransCmp (lexicographic keys)] : Std.TransCmp (lexicographic (key :: keys)) :=
  inferInstanceAs (Std.TransCmp (compareLex key (lexicographic keys)))

theorem lexicographic_cons_isLE {key : SortKey ρ} {keys : List (SortKey ρ)} {a b : ρ} :
    (lexicographic (key :: keys) a b).isLE ↔
      key a b = .lt ∨ key a b = .eq ∧ (lexicographic keys a b).isLE :=
  Ordering.isLE_then_iff_or

theorem lexicographic_cons_eq {key : SortKey ρ} {keys : List (SortKey ρ)} {a b : ρ} :
    lexicographic (key :: keys) a b = .eq ↔ key a b = .eq ∧ lexicographic keys a b = .eq :=
  Ordering.then_eq_eq

/-- The first column decides where it can. -/
theorem lexicographic_lt_of_lt {key : SortKey ρ} {keys : List (SortKey ρ)} {a b : ρ}
    (h : key a b = .lt) : lexicographic (key :: keys) a b = .lt := by
  have hthen : lexicographic (key :: keys) a b = (key a b).then (lexicographic keys a b) := rfl
  rw [hthen, h]
  rfl

/-! ## Joins -/

/-- Of a join with a table in which each of the chosen rows has one partner. -/
theorem filter_join {σ : Type*} {l : List σ} {f : σ → List ρ} {g : σ → ρ} {p : ρ → Bool}
    {q : σ → Bool} (hpartner : ∀ x ∈ l, q x = true → (f x).filter p = [g x])
    (hother : ∀ x ∈ l, q x = false → (f x).filter p = []) :
    (l.flatMap f).filter p = (l.filter q).map g := by
  induction l with
  | nil => rfl
  | cons x l ih =>
    have htail := ih (fun y hy => hpartner y (List.mem_cons_of_mem x hy))
      (fun y hy => hother y (List.mem_cons_of_mem x hy))
    rw [List.flatMap_cons, List.filter_append, htail, List.filter_cons]
    cases hq : q x with
    | true =>
      rw [hpartner x List.mem_cons_self hq, if_pos rfl]
      rfl
    | false =>
      rw [hother x List.mem_cons_self hq, if_neg (by simp)]
      rfl

/-! ## The first row of a key -/

theorem mem_of_mem_firstPerKey [DecidableEq κ] {key : ρ → κ} {rows : List ρ} {row : ρ}
    (h : row ∈ firstPerKey key rows) : row ∈ rows := by
  induction rows with
  | nil => cases h
  | cons r rows ih =>
    rcases List.mem_cons.mp h with rfl | hrest
    · exact List.mem_cons_self
    · exact List.mem_cons_of_mem r (ih (List.mem_of_mem_filter hrest))

/-- Every key that occurs has a first row. -/
theorem exists_mem_firstPerKey [DecidableEq κ] {key : ρ → κ} {rows : List ρ} {row : ρ}
    (h : row ∈ rows) : ∃ first ∈ firstPerKey key rows, key first = key row := by
  induction rows with
  | nil => cases h
  | cons r rows ih =>
    by_cases hr : key r = key row
    · exact ⟨r, List.mem_cons_self, hr⟩
    · have hrest : row ∈ rows := by
        rcases List.mem_cons.mp h with rfl | hrest
        · exact absurd rfl hr
        · exact hrest
      obtain ⟨first, hfirst, hkey⟩ := ih hrest
      refine ⟨first, List.mem_cons_of_mem r (List.mem_filter.mpr ⟨hfirst, ?_⟩), hkey⟩
      rw [decide_eq_true_eq, hkey]
      exact fun heq => hr heq.symm

/-- Among ordered rows it is the least of its key. -/
theorem le_of_mem_firstPerKey [DecidableEq κ] {key : ρ → κ} (le : ρ → ρ → Prop)
    (hrefl : ∀ a, le a a) {rows : List ρ} (hsorted : rows.Pairwise le) {first row : ρ}
    (h : first ∈ firstPerKey key rows) (hrow : row ∈ rows) (hkey : key row = key first) :
    le first row := by
  induction rows with
  | nil => cases h
  | cons r rows ih =>
    obtain ⟨hhead, htail⟩ := List.pairwise_cons.mp hsorted
    rcases List.mem_cons.mp h with rfl | hrest
    · rcases List.mem_cons.mp hrow with rfl | hrow
      · exact hrefl row
      · exact hhead row hrow
    · obtain ⟨hfirst, hne⟩ := List.mem_filter.mp hrest
      rw [decide_eq_true_eq] at hne
      rcases List.mem_cons.mp hrow with rfl | hrow
      · exact absurd hkey.symm hne
      · exact ih htail hfirst hrow

theorem Engine.mem_orderBy (engine : Engine) {ρ : Type} (key : SortKey ρ) {rows : List ρ}
    {row : ρ} : row ∈ engine.orderBy key rows ↔ row ∈ rows :=
  (engine.orderBy_perm key rows).mem_iff

/-- A row is ranked first when no row of its key comes before it, ties being broken by the
engine. -/
theorem Engine.mem_of_mem_rankedFirst (engine : Engine) {ρ : Type} [DecidableEq κ]
    {key : ρ → κ} {order : SortKey ρ} [Std.TransCmp order] {rows : List ρ} {first : ρ}
    (h : first ∈ engine.rankedFirst key order rows) :
    first ∈ rows ∧ ∀ row ∈ rows, key row = key first → (order first row).isLE := by
  constructor
  · exact (engine.mem_orderBy order).mp (mem_of_mem_firstPerKey h)
  · intro row hrow hkey
    exact le_of_mem_firstPerKey (fun a b => (order a b).isLE)
      (fun _ => Std.ReflCmp.isLE_rfl) (engine.orderBy_sorted order rows) h
      ((engine.mem_orderBy order).mpr hrow) hkey

theorem Engine.exists_mem_rankedFirst (engine : Engine) {ρ : Type} [DecidableEq κ]
    {key : ρ → κ} {order : SortKey ρ} {rows : List ρ} {row : ρ} (h : row ∈ rows) :
    ∃ first ∈ engine.rankedFirst key order rows, key first = key row :=
  exists_mem_firstPerKey ((engine.mem_orderBy order).mpr h)

/-- Where the order leaves no two rows of a key tied, the engine has no say. -/
theorem Engine.mem_rankedFirst_iff (engine : Engine) {ρ : Type} [DecidableEq κ] {key : ρ → κ}
    {order : SortKey ρ} [Std.TransCmp order] {rows : List ρ}
    (hties : ∀ a ∈ rows, ∀ b ∈ rows, key a = key b → order a b = .eq → a = b) {row : ρ} :
    row ∈ engine.rankedFirst key order rows ↔
      row ∈ rows ∧ ∀ r ∈ rows, key r = key row → (order row r).isLE := by
  constructor
  · exact engine.mem_of_mem_rankedFirst
  · rintro ⟨hrow, hleast⟩
    have hexists : ∃ first ∈ engine.rankedFirst key order rows, key first = key row :=
      engine.exists_mem_rankedFirst hrow
    obtain ⟨first, hfirst, hkey⟩ := hexists
    obtain ⟨hmem, hle⟩ := engine.mem_of_mem_rankedFirst hfirst
    have hge : (order row first).isLE := hleast first hmem hkey
    have htie : order first row = .eq :=
      Std.OrientedCmp.isLE_antisymm (hle row hrow hkey.symm) hge
    rw [← hties first hmem row hrow hkey htie]
    exact hfirst

/-- Every key has one first row. -/
theorem firstPerKey_pairwise [DecidableEq κ] (key : ρ → κ) (rows : List ρ) :
    (firstPerKey key rows).Pairwise fun a b => key a ≠ key b := by
  induction rows with
  | nil => exact List.Pairwise.nil
  | cons r rows ih =>
    refine List.pairwise_cons.mpr ⟨?_, ih.filter _⟩
    intro row hrow hkey
    have hne := (List.mem_filter.mp hrow).2
    rw [decide_eq_true_eq] at hne
    exact hne hkey.symm

/-! ## Rows that are ordered already -/

/-- Where every key has one row, the rows of a key are that row. -/
theorem filter_key_eq [DecidableEq κ] {key : ρ → κ} {rows : List ρ}
    (hdistinct : rows.Pairwise fun a b => key a ≠ key b) {row : ρ} (h : row ∈ rows) :
    rows.filter (fun r => key r = key row) = [row] := by
  induction rows with
  | nil => cases h
  | cons first rows ih =>
    rcases List.pairwise_cons.mp hdistinct with ⟨hfirst, hrest⟩
    rcases List.mem_cons.mp h with rfl | hmem
    · rw [List.filter_cons_of_pos (by simp), List.filter_eq_nil_iff.mpr]
      intro other hother
      simpa using (hfirst other hother).symm
    · rw [List.filter_cons_of_neg (by simpa using hfirst row hmem)]
      exact ih hrest hmem

/-- A key that has rows has exactly one first row, which no row of the key comes before. -/
theorem Engine.rankedFirst_of_key (engine : Engine) {ρ : Type} [DecidableEq κ] {key : ρ → κ}
    {order : SortKey ρ} [Std.TransCmp order] {rows : List ρ} {row : ρ} (h : row ∈ rows) :
    ∃ first ∈ rows, (engine.rankedFirst key order rows).filter (fun r => key r = key row) =
      [first] ∧ key first = key row ∧
      ∀ r ∈ rows, key r = key row → (order first r).isLE := by
  have hexists : ∃ first ∈ engine.rankedFirst key order rows, key first = key row :=
    engine.exists_mem_rankedFirst h
  rcases hexists with ⟨first, hfirst, hkey⟩
  rcases engine.mem_of_mem_rankedFirst hfirst with ⟨hmem, hleast⟩
  refine ⟨first, hmem, ?_, hkey, fun r hr hrkey => hleast r hr (hrkey.trans hkey.symm)⟩
  rw [← hkey]
  exact filter_key_eq (firstPerKey_pairwise _ _) hfirst

/-- Of rows in descending order the last one comes first. -/
theorem eq_last_of_isLE {order : SortKey ρ} [Std.TransCmp order] {rows : List ρ}
    (hrows : rows.Pairwise fun a b => order b a = .lt) {first last : ρ} (hfirst : first ∈ rows)
    (hlast : rows.getLast? = some last) (hle : (order first last).isLE) : first = last := by
  rcases List.eq_nil_or_concat rows with rfl | ⟨earlier, latest, rfl⟩
  · cases hfirst
  · rw [List.concat_eq_append] at hrows hfirst hlast
    rw [List.getLast?_concat, Option.some.injEq] at hlast
    subst hlast
    rcases List.mem_append.mp hfirst with hearlier | hlatest
    · have hlt := (List.pairwise_append.mp hrows).2.2 first hearlier latest List.mem_cons_self
      rw [Std.OrientedCmp.gt_of_lt hlt] at hle
      cases hle
    · exact List.mem_singleton.mp hlatest

/-- The first row of an order is the last of rows sorted the other way. -/
theorem Engine.orderBy_head? (engine : Engine) {ρ : Type} {order : SortKey ρ}
    [Std.TransCmp order] {rows : List ρ} (hrows : rows.Pairwise fun a b => order b a = .lt) :
    (engine.orderBy order rows).head? = rows.getLast? := by
  have hsorted := engine.orderBy_sorted order rows
  have hperm := engine.orderBy_perm order rows
  -- without rows there is no last one
  cases hlast : rows.getLast? with
  | none =>
    rw [List.getLast?_eq_none_iff] at hlast
    subst hlast
    rw [hperm.eq_nil]
    rfl
  | some last =>
    have hmem : last ∈ engine.orderBy order rows :=
      hperm.mem_iff.mpr (List.mem_of_getLast? hlast)
    cases hordered : engine.orderBy order rows with
    | nil =>
      rw [hordered] at hmem
      cases hmem
    | cons first rest =>
      rw [hordered] at hsorted hmem hperm
      have hfirst : first ∈ rows := hperm.mem_iff.mp List.mem_cons_self
      -- the last row is not before the first of the order
      have hle : (order first last).isLE := by
        rcases List.mem_cons.mp hmem with heq | hrest
        · rw [heq]
          exact Std.ReflCmp.isLE_rfl
        · exact (List.pairwise_cons.mp hsorted).1 last hrest
      -- and only the last row is not after any other
      rw [List.head?_cons, eq_last_of_isLE hrows hfirst hlast hle]

/-- The row that is ranked first of the rows of one key, which are in descending order. -/
theorem Engine.rankedFirst_filter (engine : Engine) {ρ : Type} [DecidableEq κ] {key : ρ → κ}
    {order : SortKey ρ} [Std.TransCmp order] {rows versions : List ρ} {k : κ}
    (hversions : rows.filter (key · = k) = versions)
    (hdescending : versions.Pairwise fun a b => order b a = .lt) :
    (engine.rankedFirst key order rows).filter (key · = k) = versions.getLast?.toList := by
  have hmem : ∀ row, row ∈ versions ↔ row ∈ rows ∧ key row = k := by
    intro row
    rw [← hversions, List.mem_filter, decide_eq_true_eq]
  cases hlast : versions.getLast? with
  | none =>
    rw [List.getLast?_eq_none_iff] at hlast
    apply List.filter_eq_nil_iff.mpr
    intro row hrow hkey
    rw [decide_eq_true_eq] at hkey
    have hversion : row ∈ versions :=
      (hmem row).mpr ⟨(engine.mem_of_mem_rankedFirst hrow).1, hkey⟩
    rw [hlast] at hversion
    cases hversion
  | some last =>
    obtain ⟨hrow, hkey⟩ := (hmem last).mp (List.mem_of_getLast? hlast)
    have hexists : ∃ first ∈ engine.rankedFirst key order rows, key first = key last :=
      engine.exists_mem_rankedFirst hrow
    obtain ⟨first, hfirst, hsame⟩ := hexists
    obtain ⟨hfirstRow, hleast⟩ := engine.mem_of_mem_rankedFirst hfirst
    have heq : first = last := eq_last_of_isLE hdescending
      ((hmem first).mpr ⟨hfirstRow, hsame.trans hkey⟩) hlast (hleast last hrow hsame.symm)
    subst heq
    -- there is no second row of the key
    have hpairwise : ((engine.rankedFirst key order rows).filter (key · = k)).Pairwise
        fun a b => key a ≠ key b := (firstPerKey_pairwise key _).filter _
    have hkeys : ∀ row ∈ (engine.rankedFirst key order rows).filter (key · = k), key row = k := by
      intro row hrow
      simpa using (List.mem_filter.mp hrow).2
    have hin : first ∈ (engine.rankedFirst key order rows).filter (key · = k) :=
      List.mem_filter.mpr ⟨hfirst, decide_eq_true hkey⟩
    cases hfilter : (engine.rankedFirst key order rows).filter (key · = k) with
    | nil =>
      rw [hfilter] at hin
      cases hin
    | cons row rest =>
      rw [hfilter] at hpairwise hkeys hin
      obtain ⟨hhead, -⟩ := List.pairwise_cons.mp hpairwise
      have hrest : rest = [] := by
        apply List.eq_nil_iff_forall_not_mem.mpr
        intro other hother
        apply hhead other hother
        rw [hkeys row List.mem_cons_self, hkeys other (List.mem_cons_of_mem row hother)]
      rw [hrest, List.mem_singleton] at hin
      rw [hrest, ← hin]
      rfl

/-! ## Orders without ties -/

section NoTies

variable {ρ : Type} {order : SortKey ρ} [Std.TransCmp order] {rows : List ρ}

/-- Where no two rows tie, leaving rows out does not reorder the rest. -/
theorem Engine.orderBy_filter (engine : Engine)
    (hties : ∀ a ∈ rows, ∀ b ∈ rows, order a b = .eq → a = b) (p : ρ → Bool) :
    (engine.orderBy order rows).filter p = engine.orderBy order (rows.filter p) := by
  have hperm : ((engine.orderBy order rows).filter p).Perm
      (engine.orderBy order (rows.filter p)) :=
    ((engine.orderBy_perm order rows).filter p).trans
      (engine.orderBy_perm order (rows.filter p)).symm
  have hmem : ∀ row ∈ (engine.orderBy order rows).filter p, row ∈ rows := by
    intro row hrow
    exact (engine.mem_orderBy order).mp (List.mem_of_mem_filter hrow)
  refine hperm.eq_of_pairwise ?_ ((engine.orderBy_sorted order rows).filter p)
    (engine.orderBy_sorted order _)
  intro a b ha hb hab hba
  exact hties a (hmem a ha) b (hmem b (hperm.mem_iff.mpr hb))
    (Std.OrientedCmp.isLE_antisymm hab hba)

/-- Different rows are in strict order. -/
theorem Engine.orderBy_strict (engine : Engine) (hnodup : rows.Nodup)
    (hties : ∀ a ∈ rows, ∀ b ∈ rows, order a b = .eq → a = b) :
    (engine.orderBy order rows).Pairwise fun a b => order a b = .lt := by
  have hdistinct : (engine.orderBy order rows).Nodup :=
    (engine.orderBy_perm order rows).nodup_iff.mpr hnodup
  refine ((engine.orderBy_sorted order rows).and hdistinct).imp_of_mem ?_
  rintro a b ha hb ⟨hle, hne⟩
  cases hab : order a b with
  | lt => rfl
  | eq => exact absurd (hties a ((engine.mem_orderBy order).mp ha) b
      ((engine.mem_orderBy order).mp hb) hab) hne
  | gt =>
    rw [hab] at hle
    cases hle

/-- A limit keeps the rows that fewer rows than it come before. -/
theorem mem_take_iff (hstrict : rows.Pairwise fun a b => order a b = .lt) {row : ρ}
    (hrow : row ∈ rows) (limit : ℕ) :
    row ∈ rows.take limit ↔ (rows.filter fun other => order other row = .lt).length < limit := by
  -- induction on the rows
  induction rows generalizing limit with
  | nil => cases hrow
  | cons first rows ih =>
    rcases List.pairwise_cons.mp hstrict with ⟨hfirst, hrest⟩
    -- nothing comes before the first row
    rcases List.mem_cons.mp hrow with rfl | hmem
    · have heq : order row row = .eq := Std.ReflCmp.compare_self
      have hself : order row row ≠ .lt := by simp [heq]
      have hlater : rows.filter (fun other => order other row = .lt) = [] := by
        apply List.filter_eq_nil_iff.mpr
        intro other hother
        rw [decide_eq_true_eq, Std.OrientedCmp.gt_of_lt (hfirst other hother)]
        simp
      rw [List.filter_cons, if_neg (by simpa using hself), hlater]
      cases limit with
      | zero => simp
      | succ limit => simp
    -- the first row comes before any other
    · have hlt : order first row = .lt := hfirst row hmem
      have hne : row ≠ first := by
        rintro rfl
        have heq : order row row = .eq := Std.ReflCmp.compare_self
        rw [heq] at hlt
        cases hlt
      rw [List.filter_cons, if_pos (decide_eq_true hlt), List.length_cons]
      cases limit with
      | zero => simp
      | succ limit =>
        rw [List.take_succ_cons, List.mem_cons, ih hrest hmem limit]
        simp [hne]

end NoTies

theorem firstPerKey_map [DecidableEq κ] {σ : Type*} (f : σ → ρ) (key : ρ → κ) (rows : List σ) :
    firstPerKey key (rows.map f) = (firstPerKey (key ∘ f) rows).map f := by
  induction rows with
  | nil => rfl
  | cons r rows ih =>
    simp only [List.map_cons, firstPerKey, ih, List.filter_map]
    rfl

theorem distinct_nodup [DecidableEq ρ] (rows : List ρ) : (distinct rows).Nodup :=
  firstPerKey_pairwise id rows

theorem mem_distinct [DecidableEq ρ] {rows : List ρ} {row : ρ} :
    row ∈ distinct rows ↔ row ∈ rows := by
  constructor
  · exact mem_of_mem_firstPerKey
  · intro h
    have hexists : ∃ first ∈ distinct rows, id first = id row := exists_mem_firstPerKey h
    obtain ⟨first, hfirst, hkey⟩ := hexists
    rw [← id_eq row, ← hkey]
    exact hfirst

/-! ## An engine -/

theorem isLE_total (key : SortKey ρ) [Std.TransCmp key] (a b : ρ) :
    (key a b).isLE ∨ (key b a).isLE := by
  cases h : key a b with
  | lt | eq => exact Or.inl rfl
  | gt =>
    right
    rw [Std.OrientedCmp.lt_of_gt h]
    rfl

/-- Text by its code points, and rows that tie in the order they are stored. -/
def Engine.plain : Engine where
  collate := compare
  collate_trans := inferInstance
  collate_eq := inferInstance
  orderBy key rows := rows.insertionSort fun a b => (key a b).isLE
  orderBy_perm _ rows := List.perm_insertionSort _ rows
  orderBy_sorted key _ rows :=
    have : Std.Total fun a b => (key a b).isLE = true := ⟨isLE_total key⟩
    have : IsTrans _ fun a b => (key a b).isLE = true :=
      ⟨fun _ _ _ hab hbc => Std.TransCmp.isLE_trans hab hbc⟩
    List.pairwise_insertionSort _ rows

end Query
