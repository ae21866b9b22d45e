import Mathlib.Algebra.BigOperators.Group.List.Basic
import Mathlib.Data.List.Forall2
import ShaderPipeline.Uniform.Casts

namespace ShaderPipeline.Uniform

/-- What is relied on of the elements that numbers are written as. -/
structure Conversion.Lawful (convert : Conversion) : Prop where
  length : ∀ e s, (convert e s).length = e.width
  apart : ∀ e, convert e (.whole 1) ≠ convert e (.whole 0)

theorem length_littleEndian (width n : Nat) : (littleEndian width n).length = width := by
  induction width generalizing n with
  | zero => rfl
  | succ width ih => rw [littleEndian, List.length_cons, ih]

theorem casts_lawful : Conversion.Lawful Scalar.casts where
  length e s := length_littleEndian e.width (s.bits e)
  apart e := by cases e <;> decide

namespace NumberArray

variable {α β : Type} {convert : Conversion} {a : NumberArray} {cells : List Scalar} {s : Scalar}
  {e : Element}
variable {shape index : List Nat} {n rows columns r c : Nat}

def WellFormed (a : NumberArray) : Prop := a.cells.length = a.shape.prod

def Inside (shape index : List Nat) : Prop := List.Forall₂ (· < ·) index shape

/-- The place of an index in row-major order. -/
def place : (shape index : List Nat) → Nat
  | _ :: shape, i :: index => i * shape.prod + place shape index
  | _, _ => 0

def cell? (a : NumberArray) (index : List Nat) : Option Scalar := a.cells[place a.shape index]?

def elementAt (e : Element) (position : Nat) (bs : List UInt8) : List UInt8 :=
  (bs.drop (position * e.width)).take e.width

/-- In every array of the shape the cell at an index is written where `order` says. -/
def Laid (convert : Conversion) (e : Element) (shape : List Nat) (order : List Nat → Nat) : Prop :=
  ∀ a : NumberArray, a.shape = shape → a.WellFormed → ∀ index, Inside shape index →
    ∃ s, a.cell? index = some s ∧ elementAt e (order index) (a.bytes convert e) = convert e s

def byColumn (rows : Nat) : List Nat → Nat
  | [r, c] => c * rows + r
  | _ => 0

/-- Vectors of `k` components, one after the other. -/
def byVector (k : Nat) : List Nat → Nat
  | [i, j] => i * k + j
  | _ => 0

/-- Matrices of `k` columns of `k` elements, one after the other. -/
def byMatrix (k : Nat) : List Nat → Nat
  | [i, r, c] => i * k * k + c * k + r
  | _ => 0

section Parts

theorem drop_flatMap {xs : List α} {f : α → List β} (h : ∀ x ∈ xs, (f x).length = n) (p : Nat) :
    (xs.flatMap f).drop (p * n) = (xs.drop p).flatMap f := by
  induction p generalizing xs with
  | zero => simp
  | succ p ih =>
      cases xs with
      | nil => simp
      | cons x xs =>
          have hx : (f x).length = n := h x List.mem_cons_self
          have hn : (p + 1) * n = (f x).length + p * n := by rw [hx, Nat.succ_mul, Nat.add_comm]
          rw [List.flatMap_cons, hn, ← List.drop_drop, List.drop_left, List.drop_succ_cons]
          exact ih fun y hy => h y (List.mem_cons_of_mem x hy)

theorem elementAt_bytes (hc : convert.Lawful) {p : Nat} (h : a.stored[p]? = some s) :
    elementAt e p (a.bytes convert e) = convert e s := by
  have hlength : ∀ s ∈ a.stored, (convert e s).length = e.width := fun s _ => hc.length e s
  obtain ⟨hp, hs⟩ := List.getElem?_eq_some_iff.mp h
  rw [elementAt, bytes, drop_flatMap hlength, List.drop_eq_getElem_cons hp, hs, List.flatMap_cons]
  exact List.take_left' (hc.length e s)

theorem filterMap_column (h : cells.length = rows * columns) (hc : c < columns) :
    (List.range rows).filterMap (fun i => cells[i * columns + c]?) =
      (List.range rows).map fun i => (cells[i * columns + c]?).getD (.whole 0) := by
  rw [← List.filterMap_eq_map]
  apply List.filterMap_congr
  intro i hi
  have hrow : (i + 1) * columns ≤ rows * columns := Nat.mul_le_mul_right _ (List.mem_range.mp hi)
  have hlt : i * columns + c < cells.length := by
    rw [Nat.succ_mul] at hrow
    omega
  simp [List.getElem?_eq_getElem hlt]

theorem getElem?_byColumns (h : cells.length = rows * columns) (hr : r < rows) (hc : c < columns) :
    (byColumns rows columns cells)[c * rows + r]? = cells[r * columns + c]? := by
  have hlength : ∀ j ∈ List.range columns,
      ((List.range rows).filterMap fun i => cells[i * columns + j]?).length = rows := by
    intro j hj
    rw [filterMap_column h (List.mem_range.mp hj), List.length_map, List.length_range]
  have hrow : (r + 1) * columns ≤ rows * columns := Nat.mul_le_mul_right _ hr
  have hlt : r * columns + c < cells.length := by
    rw [Nat.succ_mul] at hrow
    omega
  have hcolumn : c < (List.range columns).length := by rwa [List.length_range]
  rw [byColumns, ← List.getElem?_drop, drop_flatMap hlength, List.drop_eq_getElem_cons hcolumn,
    List.flatMap_cons, List.getElem_range, filterMap_column h hc, List.getElem?_append_left,
    List.getElem?_map, List.getElem?_range hr]
  · simp [List.getElem?_eq_getElem hlt]
  · simpa using hr

end Parts

section Orders

theorem exists_cons (h : Inside (n :: shape) index) :
    ∃ i rest, index = i :: rest ∧ i < n ∧ Inside shape rest := by
  obtain ⟨i, rest, hi, hrest, rfl⟩ := List.forall₂_cons_right_iff.mp h
  exact ⟨i, rest, rfl, hi, hrest⟩

theorem exists_pair (h : Inside [rows, columns] index) :
    ∃ r c, index = [r, c] ∧ r < rows ∧ c < columns := by
  obtain ⟨r, _, rfl, hr, hrest⟩ := exists_cons h
  obtain ⟨c, _, rfl, hc, hnil⟩ := exists_cons hrest
  obtain rfl := List.forall₂_nil_right_iff.mp hnil
  exact ⟨r, c, rfl, hr, hc⟩

theorem place_lt (h : Inside shape index) : place shape index < shape.prod := by
  induction h with
  | nil => decide
  | @cons i n index shape hi _ ih =>
      have hrow : (i + 1) * shape.prod ≤ n * shape.prod := Nat.mul_le_mul_right _ hi
      rw [place, List.prod_cons]
      rw [Nat.succ_mul] at hrow
      omega

theorem exists_cell? (hs : a.shape = shape) (ha : a.WellFormed) (hi : Inside shape index) :
    ∃ s, a.cell? index = some s := by
  have hlt : place a.shape index < a.cells.length := by
    rw [ha, hs]
    exact place_lt hi
  exact ⟨_, List.getElem?_eq_getElem hlt⟩

theorem Laid.congr {order order' : List Nat → Nat} (h : Laid convert e shape order)
    (ho : ∀ index, Inside shape index → order' index = order index) :
    Laid convert e shape order' := by
  intro a hs ha index hi
  rw [ho index hi]
  exact h a hs ha index hi

theorem laid_byColumn (hc : convert.Lawful) (e : Element) (rows columns : Nat) :
    Laid convert e [rows, columns] (byColumn rows) := by
  intro a hs ha index hi
  obtain ⟨s, hcell⟩ := exists_cell? hs ha hi
  obtain ⟨r, c, rfl, hrow, hcolumn⟩ := exists_pair hi
  refine ⟨s, hcell, elementAt_bytes hc ?_⟩
  have hlength : a.cells.length = rows * columns := by
    rw [ha, hs]
    simp
  have hplace : place [rows, columns] [r, c] = r * columns + c := by simp [place]
  rw [cell?, hs, hplace] at hcell
  rw [stored, hs]
  exact (getElem?_byColumns hlength hrow hcolumn).trans hcell

theorem laid_place (hc : convert.Lawful) (e : Element) (hshape : shape.length ≠ 2) :
    Laid convert e shape (place shape) := by
  intro a hs ha index hi
  obtain ⟨s, hcell⟩ := exists_cell? hs ha hi
  refine ⟨s, hcell, elementAt_bytes hc ?_⟩
  have hstored : a.stored = a.cells := by
    rw [stored]
    split
    · next rows columns h =>
        rw [← hs, h] at hshape
        exact absurd rfl hshape
    · rfl
  rw [hstored, ← hs]
  exact hcell

def spot (shape : List Nat) : NumberArray where
  shape := shape
  cells := (List.range shape.prod).map fun p => if p = 1 then .whole 1 else .whole 0

theorem spot_wellFormed (shape : List Nat) : (spot shape).WellFormed := by
  rw [WellFormed, spot, List.length_map, List.length_range]

theorem cell?_spot (hi : Inside shape index) :
    (spot shape).cell? index = some (if place shape index = 1 then .whole 1 else .whole 0) := by
  rw [cell?, spot, List.getElem?_map, List.getElem?_range (place_lt hi)]
  rfl

/-- Two cells that two orders put in one place cannot be told apart by what is written. -/
theorem not_laid_of_clash (hc : convert.Lawful) {order order' : List Nat → Nat} {i j : List Nat}
    (hi : Inside shape i) (hj : Inside shape j) (hfirst : place shape i = 1)
    (hother : place shape j ≠ 1) (hclash : order i = order' j) (h : Laid convert e shape order') :
    ¬ Laid convert e shape order := by
  intro h'
  obtain ⟨s, hs, hbytes⟩ := h' (spot shape) rfl (spot_wellFormed shape) i hi
  obtain ⟨z, hz, hbytes'⟩ := h (spot shape) rfl (spot_wellFormed shape) j hj
  rw [cell?_spot hi, if_pos hfirst] at hs
  rw [cell?_spot hj, if_neg hother] at hz
  cases hs
  cases hz
  rw [hclash, hbytes'] at hbytes
  exact hc.apart e hbytes.symm

theorem laid_byVector_iff (hc : convert.Lawful) (e : Element) (n k : Nat) :
    Laid convert e [n, k] (byVector k) ↔ n ≤ 1 ∨ k ≤ 1 := by
  have hcolumns := laid_byColumn hc e n k
  constructor
  · intro h
    by_contra hno
    obtain ⟨hn, hk⟩ : 1 < n ∧ 1 < k := by omega
    have hi : Inside [n, k] [0, 1] := .cons (by omega) (.cons hk .nil)
    have hj : Inside [n, k] [1, 0] := .cons hn (.cons (by omega) .nil)
    refine not_laid_of_clash hc hi hj ?_ ?_ ?_ hcolumns h
    · simp [place]
    · simp only [place, List.prod_cons, List.prod_nil]
      omega
    · simp [byVector, byColumn]
  · intro h
    refine hcolumns.congr fun index hi => ?_
    obtain ⟨i, j, rfl, hin, hjk⟩ := exists_pair hi
    rw [byVector, byColumn]
    rcases h with h | h
    · obtain ⟨rfl, rfl⟩ : i = 0 ∧ n = 1 := by omega
      omega
    · obtain ⟨rfl, rfl⟩ : j = 0 ∧ k = 1 := by omega
      omega

theorem laid_byMatrix_iff (hc : convert.Lawful) (e : Element) (n k : Nat) :
    Laid convert e [n, k, k] (byMatrix k) ↔ n = 0 ∨ k ≤ 1 := by
  have hrows : Laid convert e [n, k, k] (place [n, k, k]) := laid_place hc e (by simp)
  constructor
  · intro h
    by_contra hno
    obtain ⟨hn, hk⟩ : 0 < n ∧ 1 < k := by omega
    have hi : Inside [n, k, k] [0, 0, 1] := .cons hn (.cons (by omega) (.cons hk .nil))
    have hj : Inside [n, k, k] [0, 1, 0] := .cons hn (.cons hk (.cons (by omega) .nil))
    refine not_laid_of_clash hc hi hj ?_ ?_ ?_ hrows h
    · simp [place]
    · simp only [place, List.prod_cons, List.prod_nil]
      omega
    · simp [byMatrix, place]
  · intro h
    refine hrows.congr fun index hi => ?_
    obtain ⟨i, _, rfl, hin, hrest⟩ := exists_cons hi
    obtain ⟨r, c, rfl, hrow, hcolumn⟩ := exists_pair hrest
    rcases h with h | h
    · omega
    · obtain ⟨rfl, rfl, rfl⟩ : r = 0 ∧ c = 0 ∧ k = 1 := by omega
      simp [byMatrix, place]

end Orders

end NumberArray

end ShaderPipeline.Uniform
