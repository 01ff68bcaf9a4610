import Mathlib.Data.List.Basic

/-! # Pages of a list

A list is read page by page, each from an offset and with at most a limit of items. The offset of
the next page is that of this one and its length, until nothing is left.

* `more_iff`: when something is left after a page;
* `pageCount_eq_one_iff`: when one page holds the list.
-/

namespace Paging

universe u

variable {α : Type u}

/-- The page at an offset. -/
def pageAt (limit offset : ℕ) (items : List α) : List α := (items.drop offset).take limit

/-- How many pages a walk over this many items has: a walk over none has one. -/
def pageCount (limit count : ℕ) : ℕ := (count - 1) / limit + 1

theorem length_pageAt {limit offset : ℕ} {items : List α} :
    (pageAt limit offset items).length = min limit (items.length - offset) := by
  rw [pageAt, List.length_take, List.length_drop]

/-- More is left after a page exactly when the list goes on past its limit. -/
theorem more_iff {limit offset : ℕ} {items : List α} (hoffset : offset ≤ items.length) :
    offset + (pageAt limit offset items).length < items.length ↔
      offset + limit < items.length := by
  rw [length_pageAt]
  omega

/-- A page with more after it is full. -/
theorem length_pageAt_of_more {limit offset : ℕ} {items : List α}
    (h : offset + limit < items.length) : (pageAt limit offset items).length = limit := by
  rw [length_pageAt]
  omega

/-- The last item of a full page. -/
theorem getLast?_pageAt {limit offset : ℕ} {items : List α} (hlimit : 0 < limit)
    (h : offset + limit < items.length) :
    (pageAt limit offset items).getLast? = items[offset + limit - 1]? := by
  rw [List.getLast?_eq_getElem?, length_pageAt_of_more h, pageAt,
    List.getElem?_take_of_lt (by omega), List.getElem?_drop]
  congr 1
  omega

theorem map_pageAt {β : Type*} (f : α → β) (limit offset : ℕ) (items : List α) :
    (pageAt limit offset items).map f = pageAt limit offset (items.map f) := by
  rw [pageAt, pageAt, List.map_take, List.map_drop]

theorem pageCount_last {limit count : ℕ} (hlimit : 0 < limit) (h : count ≤ limit) :
    pageCount limit count = 1 := by
  rw [pageCount, Nat.div_eq_of_lt (by omega)]

theorem pageCount_more {limit count : ℕ} (hlimit : 0 < limit) (h : limit < count) :
    pageCount limit count = pageCount limit (count - limit) + 1 := by
  have hsplit : count - 1 = count - limit - 1 + limit := by omega
  rw [pageCount, pageCount, hsplit, Nat.add_div_right _ hlimit]

theorem pageCount_eq_one_iff {limit count : ℕ} (hlimit : 0 < limit) :
    pageCount limit count = 1 ↔ count ≤ limit := by
  constructor
  · intro h
    by_contra hmore
    rw [pageCount_more hlimit (by omega), pageCount] at h
    exact absurd (Nat.succ.inj h) (Nat.succ_ne_zero _)
  · exact pageCount_last hlimit

end Paging
