import Mathlib.Data.List.Forall2
import Mathlib.Order.Lattice

/-! # A loop that sorts rows out

A loop over raw rows reads a key of each, which has to increase, and an item. A row that cannot be
read leaves a note where the error is one that the loop catches, and ends the loop otherwise. Of
the items those that pass a filter are kept. Every row is accounted for, and the keys of the items
that are kept increase.

* `Reader.run_accounted`: every row comes to exactly one of the three;
* `Reader.run_increasing`: the keys of the kept items increase;
* `Reader.run_map`: loops that correspond row by row correspond as a whole.
-/

namespace RowLoop

universe u v w x y

variable {ρ : Type u} {κ : Type v} {β : Type w} {ν : Type x} {ε : Type y}

/-- What becomes of a row. -/
inductive Outcome (β : Type w) (ν : Type x) where
  | kept (item : β)
  | passed (item : β)
  | noted (note : ν)

def Outcome.kept? : Outcome β ν → Option β
  | .kept item => some item
  | _ => none

def Outcome.passed? : Outcome β ν → Option β
  | .passed item => some item
  | _ => none

def Outcome.noted? : Outcome β ν → Option ν
  | .noted note => some note
  | _ => none

/-- How a loop reads a row, by its index. -/
structure Reader (ρ : Type u) (κ : Type v) (β : Type w) (ν : Type x) (ε : Type y) where
  key : ℕ → ρ → Except ε κ
  item : ρ → κ → Except ε β
  keyCaught : ρ → ε → Bool
  itemCaught : ε → Bool
  note : ℕ → ρ → ε → Except ε ν
  disorder : ε
  keeps : β → Bool

/-- The row with this index came to this. -/
def Reader.Accounts (r : Reader ρ κ β ν ε) (i : ℕ) (row : ρ) : Outcome β ν → Prop
  | .kept b => ∃ k, r.key i row = .ok k ∧ r.item row k = .ok b ∧ r.keeps b = true
  | .passed b => ∃ k, r.key i row = .ok k ∧ r.item row k = .ok b ∧ r.keeps b = false
  | .noted n => ∃ e, r.note i row e = .ok n ∧
      (r.key i row = .error e ∨ ∃ k, r.key i row = .ok k ∧ r.item row k = .error e)

/-- A row comes to one thing only. -/
theorem Reader.Accounts.unique {r : Reader ρ κ β ν ε} {i : ℕ} {row : ρ} {o o' : Outcome β ν}
    (h : r.Accounts i row o) (h' : r.Accounts i row o') : o' = o := by
  cases hkey : r.key i row with
  | error e =>
    -- no key, so there is a note on both sides
    cases o <;> cases o' <;> simp_all [Reader.Accounts]
  | ok k =>
    cases hitem : r.item row k with
    | error e => cases o <;> cases o' <;> simp_all [Reader.Accounts]
    | ok b => cases o <;> cases o' <;> simp_all [Reader.Accounts]

/-- An error of a row: a caught one leaves a note, and the loop goes on. -/
def Reader.setAside (r : Reader ρ κ β ν ε) (i : ℕ) (row : ρ) (caught : Bool) (e : ε)
    (later : Except ε (List β × List ν)) : Except ε (List β × List ν) :=
  if caught then
    match r.note i row e with
    | .error e' => .error e'
    | .ok n => later.map fun (items, notes) => (items, n :: notes)
  else .error e

theorem map_ok {α γ : Type*} {x : Except ε α} {f : α → γ} {c : γ} :
    x.map f = .ok c ↔ ∃ a, x = .ok a ∧ f a = c := by
  cases x with
  | error e => simp [Except.map]
  | ok a => simp [Except.map]

/-- A row that is set aside adds one note. -/
theorem Reader.setAside_ok {r : Reader ρ κ β ν ε} {i : ℕ} {row : ρ} {caught : Bool} {e : ε}
    {later : Except ε (List β × List ν)} {items : List β} {notes : List ν}
    (h : r.setAside i row caught e later = .ok (items, notes)) :
    ∃ n notes', r.note i row e = .ok n ∧ notes = n :: notes' ∧ later = .ok (items, notes') := by
  unfold Reader.setAside at h
  split_ifs at h
  cases hnote : r.note i row e with
  | error e' =>
    rw [hnote] at h
    cases h
  | ok n =>
    rw [hnote] at h
    rcases map_ok.mp h with ⟨⟨items', notes'⟩, hlater, heq⟩
    cases heq
    exact ⟨n, notes', rfl, rfl, hlater⟩

variable [LinearOrder κ]

/-- The loop, from the row with this index, after the last key read. -/
def Reader.run (r : Reader ρ κ β ν ε) (i : ℕ) (previous : Option κ) :
    List ρ → Except ε (List β × List ν)
  | [] => .ok ([], [])
  | row :: rest =>
      match r.key i row with
      | .error e => r.setAside i row (r.keyCaught row e) e (r.run (i + 1) previous rest)
      | .ok k =>
          if previous.any (k ≤ ·) then .error r.disorder
          else
            match r.item row k with
            | .error e => r.setAside i row (r.itemCaught e) e (r.run (i + 1) (some k) rest)
            | .ok b =>
                (r.run (i + 1) (some k) rest).map fun (items, notes) =>
                  (if r.keeps b then b :: items else items, notes)

/-- Everything that the first row of a loop that returns can do. -/
theorem Reader.run_cons {r : Reader ρ κ β ν ε} {i : ℕ} {previous : Option κ} {row : ρ}
    {rest : List ρ} {items : List β} {notes : List ν}
    (h : r.run i previous (row :: rest) = .ok (items, notes)) :
    (∃ e n later, r.key i row = .error e ∧ r.note i row e = .ok n ∧ notes = n :: later ∧
      r.run (i + 1) previous rest = .ok (items, later)) ∨
    (∃ k e n later, r.key i row = .ok k ∧ (∀ p, previous = some p → p < k) ∧
      r.item row k = .error e ∧ r.note i row e = .ok n ∧ notes = n :: later ∧
      r.run (i + 1) (some k) rest = .ok (items, later)) ∨
    ∃ k b later, r.key i row = .ok k ∧ (∀ p, previous = some p → p < k) ∧
      r.item row k = .ok b ∧ items = (if r.keeps b then b :: later else later) ∧
      r.run (i + 1) (some k) rest = .ok (later, notes) := by
  unfold Reader.run at h
  -- the key of the row is read
  cases hkey : r.key i row with
  | error e =>
    rw [hkey] at h
    rcases Reader.setAside_ok h with ⟨n, later, hnote, rfl, hrest⟩
    exact Or.inl ⟨e, n, later, rfl, hnote, rfl, hrest⟩
  | ok k =>
    rw [hkey] at h
    simp only at h
    -- a key that does not increase is raised, so here it increases
    split_ifs at h with hdisorder
    have hincreases : ∀ p, previous = some p → p < k := by
      rintro p rfl
      simpa using hdisorder
    -- the item of the row is read
    cases hitem : r.item row k with
    | error e =>
      rw [hitem] at h
      rcases Reader.setAside_ok h with ⟨n, later, hnote, rfl, hrest⟩
      exact Or.inr (Or.inl ⟨k, e, n, later, rfl, hincreases, hitem, hnote, rfl, hrest⟩)
    | ok b =>
      rw [hitem] at h
      rcases map_ok.mp h with ⟨⟨later, notes'⟩, hrest, heq⟩
      cases heq
      exact Or.inr (Or.inr ⟨k, b, later, rfl, hincreases, hitem, rfl, hrest⟩)

/-- Every row is exactly one of: an item that is kept, an item that is not, a note. -/
theorem Reader.run_accounted {r : Reader ρ κ β ν ε} {i : ℕ} {previous : Option κ} {rows : List ρ}
    {items : List β} {notes : List ν} (h : r.run i previous rows = .ok (items, notes)) :
    ∃ outcomes : List (Outcome β ν), outcomes.length = rows.length ∧
      items = outcomes.filterMap Outcome.kept? ∧ notes = outcomes.filterMap Outcome.noted? ∧
      ∀ j row, rows[j]? = some row → ∃ outcome, outcomes[j]? = some outcome ∧
        r.Accounts (i + j) row outcome := by
  induction rows generalizing i previous items notes with
  | nil =>
    cases h
    exact ⟨[], rfl, rfl, rfl, nofun⟩
  | cons row rest ih =>
    -- one outcome for the first row, the others by induction
    have extend : ∀ {items' : List β} {notes' : List ν} {previous' : Option κ}
        (outcome : Outcome β ν), r.run (i + 1) previous' rest = .ok (items', notes') →
        r.Accounts i row outcome → items = outcome.kept?.toList ++ items' →
        notes = outcome.noted?.toList ++ notes' →
        ∃ outcomes : List (Outcome β ν), outcomes.length = (row :: rest).length ∧
          items = outcomes.filterMap Outcome.kept? ∧
          notes = outcomes.filterMap Outcome.noted? ∧
          ∀ j row', (row :: rest)[j]? = some row' → ∃ outcome, outcomes[j]? = some outcome ∧
            r.Accounts (i + j) row' outcome := by
      intro items' notes' previous' outcome hrest haccounts hitems hnotes
      obtain ⟨outcomes, hlength, hkept, hnoted, hall⟩ := ih hrest
      refine ⟨outcome :: outcomes, by simp [hlength], ?_, ?_, ?_⟩
      · rw [hitems, hkept]
        cases outcome <;> rfl
      · rw [hnotes, hnoted]
        cases outcome <;> rfl
      · intro j row' hrow
        cases j with
        | zero =>
          cases hrow
          exact ⟨outcome, rfl, haccounts⟩
        | succ j =>
          obtain ⟨later, hlater, hlaterAccounts⟩ := hall j row' hrow
          refine ⟨later, hlater, ?_⟩
          rw [show i + (j + 1) = i + 1 + j by omega]
          exact hlaterAccounts
    rcases Reader.run_cons h with ⟨e, n, later, hkey, hnote, rfl, hrest⟩ |
      ⟨k, e, n, later, hkey, -, hitem, hnote, rfl, hrest⟩ |
      ⟨k, b, later, hkey, -, hitem, rfl, hrest⟩
    · exact extend (.noted n) hrest ⟨e, hnote, Or.inl hkey⟩ rfl rfl
    · exact extend (.noted n) hrest ⟨e, hnote, Or.inr ⟨k, hkey, hitem⟩⟩ rfl rfl
    · by_cases hkeeps : r.keeps b = true
      · exact extend (.kept b) hrest ⟨k, hkey, hitem, hkeeps⟩ (by rw [if_pos hkeeps]; rfl) rfl
      · have hpasses : r.keeps b = false := by simpa using hkeeps
        exact extend (.passed b) hrest ⟨k, hkey, hitem, hpasses⟩ (by rw [if_neg hkeeps]; rfl) rfl

/-- The keys of the items that are kept increase, from the last key before. -/
theorem Reader.run_increasing {r : Reader ρ κ β ν ε} {keyOf : β → κ}
    (hkeyOf : ∀ row k b, r.item row k = .ok b → keyOf b = k) {i : ℕ} {previous : Option κ}
    {rows : List ρ} {items : List β} {notes : List ν}
    (h : r.run i previous rows = .ok (items, notes)) :
    items.Pairwise (fun a b => keyOf a < keyOf b) ∧
      ∀ b ∈ items, ∀ p, previous = some p → p < keyOf b := by
  -- induction on the rows, by what the first one did
  induction rows generalizing i previous items notes with
  | nil =>
    cases h
    exact ⟨List.Pairwise.nil, fun _ hb => absurd hb List.not_mem_nil⟩
  | cons row rest ih =>
    rcases Reader.run_cons h with ⟨e, n, later, -, -, -, hrest⟩ |
      ⟨k, e, n, later, -, hincreases, -, -, -, hrest⟩ |
      ⟨k, b, later, -, hincreases, hitem, rfl, hrest⟩
    -- no key: the last key is as before
    · exact ih hrest
    -- no item: the key counts all the same
    · obtain ⟨hsorted, hafter⟩ := ih hrest
      exact ⟨hsorted, fun b hb p hp => lt_trans (hincreases p hp) (hafter b hb k rfl)⟩
    · obtain ⟨hsorted, hafter⟩ := ih hrest
      have hlater : ∀ b' ∈ later, ∀ p, previous = some p → p < keyOf b' :=
        fun b' hb' p hp => lt_trans (hincreases p hp) (hafter b' hb' k rfl)
      have hown := hkeyOf row k b hitem
      -- an item that is kept comes before those that follow
      by_cases hkeeps : r.keeps b = true
      · rw [if_pos hkeeps]
        constructor
        · refine List.pairwise_cons.mpr ⟨?_, hsorted⟩
          intro b' hb'
          rw [hown]
          exact hafter b' hb' k rfl
        · intro b' hb' p hp
          rcases List.mem_cons.mp hb' with rfl | hmem
          · rw [hown]
            exact hincreases p hp
          · exact hlater b' hmem p hp
      · rw [if_neg hkeeps]
        exact ⟨hsorted, hlater⟩

/-- Every item that is kept was read from a row and passed the filter. -/
theorem Reader.run_kept {r : Reader ρ κ β ν ε} {i : ℕ} {previous : Option κ} {rows : List ρ}
    {items : List β} {notes : List ν} (h : r.run i previous rows = .ok (items, notes)) :
    ∀ b ∈ items, ∃ j row k, rows[j]? = some row ∧ r.key (i + j) row = .ok k ∧
      r.item row k = .ok b ∧ r.keeps b = true := by
  obtain ⟨outcomes, hlength, rfl, -, hall⟩ := Reader.run_accounted h
  intro b hb
  obtain ⟨outcome, hmem, hkept⟩ := List.mem_filterMap.mp hb
  obtain ⟨j, hj, hget⟩ := List.getElem_of_mem hmem
  have hrow : j < rows.length := hlength ▸ hj
  obtain ⟨outcome', houtcome', haccounts⟩ := hall j rows[j] (List.getElem?_eq_getElem hrow)
  rw [List.getElem?_eq_getElem hj, hget] at houtcome'
  cases houtcome'
  cases outcome with
  | kept b' =>
    cases hkept
    obtain ⟨k, hkey, hitem, hkeeps⟩ := haccounts
    exact ⟨j, rows[j], k, List.getElem?_eq_getElem hrow, hkey, hitem, hkeeps⟩
  | passed | noted => cases hkept

/-- Loops whose items correspond, and that keep the same ones, correspond as a whole. -/
theorem Reader.run_map {r r' : Reader ρ κ β ν ε} (f : β → β)
    (hitem : ∀ row k, r'.item row k = (r.item row k).map f)
    (hkeeps : ∀ b, r'.keeps (f b) = r.keeps b) (hkey : r'.key = r.key)
    (hkeyCaught : r'.keyCaught = r.keyCaught) (hitemCaught : r'.itemCaught = r.itemCaught)
    (hnote : r'.note = r.note) (hdisorder : r'.disorder = r.disorder) (i : ℕ)
    (previous : Option κ) (rows : List ρ) :
    r'.run i previous rows =
      (r.run i previous rows).map fun (items, notes) => (items.map f, notes) := by
  have haside : ∀ i row caught e (later : Except ε (List β × List ν)),
      r'.setAside i row caught e (later.map fun (items, notes) => (items.map f, notes)) =
        (r.setAside i row caught e later).map fun (items, notes) => (items.map f, notes) := by
    intro i row caught e later
    simp only [Reader.setAside, hnote]
    split_ifs
    · cases r.note i row e with
      | error e' => rfl
      | ok n => cases later <;> rfl
    · rfl
  induction rows generalizing i previous with
  | nil => rfl
  | cons row rest ih =>
    simp only [Reader.run, hkey, hkeyCaught, hitemCaught, hdisorder, hitem, ih]
    cases r.key i row with
    | error e => exact haside i row _ e _
    | ok k =>
      by_cases hdis : previous.any (k ≤ ·) = true
      · simp only [hdis, if_true]
        rfl
      · simp only [hdis]
        cases r.item row k with
        | error e => exact haside i row _ e _
        | ok b =>
          -- the item is kept in both loops or in neither
          simp only [Except.map, hkeeps]
          cases r.run (i + 1) (some k) rest with
          | error e => rfl
          | ok later => cases r.keeps b <;> simp

/-- Rows with increasing keys that all become items are read, and the loop goes on after them. -/
theorem Reader.run_readable {r : Reader ρ κ β ν ε} {row : κ → ρ} {P : κ → β → Prop}
    {keys : List κ} (hsorted : keys.Pairwise (· < ·))
    (hkey : ∀ i, ∀ k ∈ keys, r.key i (row k) = .ok k)
    (hitem : ∀ k ∈ keys, ∃ b, r.item (row k) k = .ok b ∧ r.keeps b = true ∧ P k b) (i : ℕ)
    {previous : Option κ} (hprevious : ∀ p ∈ previous, ∀ k ∈ keys, p < k) (rest : List ρ) :
    ∃ items last, List.Forall₂ P keys items ∧
      r.run i previous (keys.map row ++ rest) =
        (r.run (i + keys.length) last rest).map fun (later, notes) => (items ++ later, notes) := by
  -- induction on the keys
  induction keys generalizing i previous with
  | nil =>
    refine ⟨[], previous, .nil, ?_⟩
    show r.run i previous rest = (r.run i previous rest).map fun (later, notes) => (later, notes)
    cases r.run i previous rest <;> rfl
  | cons k keys ih =>
    obtain ⟨b, hread, hkeeps, hb⟩ := hitem k List.mem_cons_self
    obtain ⟨hfirst, hlater⟩ := List.pairwise_cons.mp hsorted
    have hafter : ∀ p ∈ some k, ∀ k' ∈ keys, p < k' := by
      intro p hp k' hk'
      cases hp
      exact hfirst k' hk'
    obtain ⟨items, last, hitems, hrun⟩ := ih hlater
      (fun i k' hk' => hkey i k' (List.mem_cons_of_mem k hk'))
      (fun k' hk' => hitem k' (List.mem_cons_of_mem k hk')) (i + 1) hafter
    -- the key increases, so the loop does not raise
    have horder : ¬ previous.any (k ≤ ·) = true := by
      cases previous with
      | none => simp
      | some p => simpa using hprevious p rfl k List.mem_cons_self
    refine ⟨b :: items, last, .cons hb hitems, ?_⟩
    rw [List.map_cons, List.cons_append, Reader.run, hkey i k List.mem_cons_self]
    simp only
    rw [if_neg horder, hread]
    simp only
    rw [hrun, List.length_cons, show i + 1 + keys.length = i + (keys.length + 1) by omega]
    cases r.run (i + (keys.length + 1)) last rest with
    | error e => rfl
    | ok found => simp [Except.map, hkeeps]

end RowLoop
