import Mathlib.Data.List.Sort

/-!
# Shapes and layouts

XLA's `Shape` as the GPU classifiers read it: an element type, the extent of each dimension,
and a dense layout given by its `minor_to_major` order. `ShapeUtil` and `LayoutUtil` are not in
the repository; the functions of theirs that `ir_emission_utils.cc` calls are modelled from the
spec's words.

* `consecutive_iff_gapFree`: a strictly increasing list of layout positions is one run of
  consecutive positions iff no position between two of its members is missing from it.
* `filterDimensions_congr`: `FilterDimensions` reads its predicate only on the dimensions of
  the shape.
-/

namespace XlaGpu

inductive PrimitiveType where
  | primitiveTypeInvalid | pred | s8 | s16 | s32 | s64 | u8 | u16 | u32 | u64
  | f16 | f32 | bf16 | f64 | c64 | c128 | tuple | opaqueType | token
  deriving DecidableEq, Repr

structure Layout where
  minorToMajor : List Nat
  deriving DecidableEq, Repr

structure Shape where
  elementType : PrimitiveType
  dimensions : List Nat
  layout : Layout
  deriving DecidableEq, Repr

namespace Shape

def rank (shape : Shape) : Nat := shape.dimensions.length

end Shape

namespace ShapeUtil

def isArray (shape : Shape) : Bool :=
  !(shape.elementType == .tuple || shape.elementType == .opaqueType ||
    shape.elementType == .token)

def isZeroElementArray (shape : Shape) : Bool :=
  isArray shape && shape.dimensions.contains 0

def equal (lhs rhs : Shape) : Bool := lhs == rhs

def filterDimensions (p : Nat → Bool) (shape : Shape) : Shape :=
  let kept := (List.range shape.rank).filter p
  { shape with
    dimensions := kept.map fun i => shape.dimensions.getD i 0
    layout := ⟨(shape.layout.minorToMajor.filter kept.contains).map kept.indexOf⟩ }

theorem filterDimensions_congr {p q : Nat → Bool} {shape : Shape}
    (agree : ∀ i < shape.rank, p i = q i) :
    filterDimensions p shape = filterDimensions q shape := by
  have kept : (List.range shape.rank).filter p = (List.range shape.rank).filter q :=
    List.filter_congr fun i member => agree i (List.mem_range.mp member)
  simp only [filterDimensions, kept]

end ShapeUtil

namespace LayoutUtil

def consecutive : List Nat → Bool
  | a :: b :: rest => b == a + 1 && consecutive (b :: rest)
  | _ => true

def areDimensionsConsecutive (layout : Layout) (dims : List Nat) : Bool :=
  consecutive ((dims.map layout.minorToMajor.indexOf).insertionSort (· ≤ ·))

def GapFree (positions : List Nat) : Prop :=
  ∀ a ∈ positions, ∀ b ∈ positions, ∀ p, a < p → p < b → p ∈ positions

theorem gapFree_tail {a : Nat} {rest : List Nat} (sorted : (a :: rest).Pairwise (· < ·))
    (gapFree : GapFree (a :: rest)) : GapFree rest := by
  intro x hx y hy p hxp hpy
  have above : a < x := List.rel_of_pairwise_cons sorted hx
  rcases List.mem_cons.mp (gapFree x (.tail _ hx) y (.tail _ hy) p hxp hpy) with rfl | member
  · omega
  · exact member

theorem consecutive_iff_gapFree {positions : List Nat} (sorted : positions.Pairwise (· < ·)) :
    consecutive positions = true ↔ GapFree positions := by
  induction positions with
  | nil => simp [consecutive, GapFree]
  | cons a rest ih =>
    cases rest with
    | nil =>
      simp only [consecutive, GapFree, List.mem_singleton, true_iff]
      rintro _ rfl _ rfl p h₁ h₂
      omega
    | cons b rest =>
      have ab : a < b := List.rel_of_pairwise_cons sorted (.head _)
      have below : ∀ x ∈ b :: rest, a < x := fun x hx => List.rel_of_pairwise_cons sorted hx
      have ih := ih sorted.of_cons
      simp only [consecutive, Bool.and_eq_true, beq_iff_eq, ih]
      constructor
      · rintro ⟨next, tail⟩ x hx y hy p hxp hpy
        have hy' : y ≠ a → y ∈ b :: rest := fun ne => (List.mem_cons.mp hy).resolve_left ne
        rcases List.mem_cons.mp hx with rfl | hx
        · rcases Nat.lt_or_ge b p with far | near
          · exact .tail _ (tail b (.head _) y (hy' (by omega)) p far hpy)
          · exact .tail _ (by rw [show p = b by omega]; exact .head _)
        · have := below x hx
          exact .tail _ (tail x hx y (hy' (by omega)) p hxp hpy)
      · intro gapFree
        refine ⟨?_, gapFree_tail sorted gapFree⟩
        by_contra gap
        rcases List.mem_cons.mp (gapFree a (.head _) b (.tail _ (.head _)) (a + 1) (by omega)
          (by omega)) with same | member
        · omega
        · rcases List.mem_cons.mp member with same | member
          · omega
          · have := List.rel_of_pairwise_cons sorted.of_cons member
            omega

end LayoutUtil

end XlaGpu
