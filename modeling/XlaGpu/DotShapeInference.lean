import XlaGpu.Gemm

/-!
# The gemm path's reads are in bounds

`DotImplementedAsGemm` reads element 0 of both contracting-dimension lists and `CHECK`s that the
two contracted extents agree. Neither is guarded: both rest on what shape inference guarantees
of every dot. `DotShapesAdmissible` states those guarantees; under them the three ranks being
`B + 2` leaves room for exactly one contracted dimension per operand.

* `contracting_singleton`: shapes `AreValidGemmShapes` accepts contract one dimension each.
* `implementedAsGemm_admissible`: on an admissible dot, reached directly or through an output
  fusion, the classification never stops and returns what `AreValidGemmShapes` says.
-/

namespace XlaGpu

def freeDimensions (rank : Nat) (listed : List Nat) : List Nat :=
  (List.range rank).filter (· ∉ listed)

def DotDimensionNumbers.lhsListed (dimNumbers : DotDimensionNumbers) : List Nat :=
  dimNumbers.lhsBatchDimensions ++ dimNumbers.lhsContractingDimensions

def DotDimensionNumbers.rhsListed (dimNumbers : DotDimensionNumbers) : List Nat :=
  dimNumbers.rhsBatchDimensions ++ dimNumbers.rhsContractingDimensions

structure DotShapesAdmissible (lhs rhs output : Shape) (dimNumbers : DotDimensionNumbers) :
    Prop where
  batchSizes : dimNumbers.lhsBatchDimensions.length = dimNumbers.rhsBatchDimensions.length
  contractingSizes :
    dimNumbers.lhsContractingDimensions.length = dimNumbers.rhsContractingDimensions.length
  lhsInRange : ∀ d ∈ dimNumbers.lhsListed, d < lhs.rank
  rhsInRange : ∀ d ∈ dimNumbers.rhsListed, d < rhs.rank
  lhsDistinct : dimNumbers.lhsListed.Nodup
  rhsDistinct : dimNumbers.rhsListed.Nodup
  contractingExtents : List.Forall₂ (fun l r => lhs.dimensions.getD l 0 = rhs.dimensions.getD r 0)
    dimNumbers.lhsContractingDimensions dimNumbers.rhsContractingDimensions
  outputRank : output.rank = dimNumbers.lhsBatchDimensions.length +
    (freeDimensions lhs.rank dimNumbers.lhsListed).length +
    (freeDimensions rhs.rank dimNumbers.rhsListed).length

theorem length_freeDimensions {rank : Nat} {listed : List Nat} (distinct : listed.Nodup)
    (inRange : ∀ d ∈ listed, d < rank) :
    (freeDimensions rank listed).length = rank - listed.length := by
  have chosen : ((List.range rank).filter (· ∈ listed)).Perm listed :=
    (List.perm_ext_iff_of_nodup ((List.nodup_range rank).filter _) distinct).mpr fun d => by
      simpa [List.mem_filter] using fun member => inRange d member
  have split := List.length_eq_length_filter_add (l := List.range rank) (· ∈ listed)
  rw [chosen.length_eq, List.length_range] at split
  simp only [freeDimensions, decide_not] at split ⊢
  omega

theorem length_listed_le {rank : Nat} {listed : List Nat} (distinct : listed.Nodup)
    (inRange : ∀ d ∈ listed, d < rank) : listed.length ≤ rank := by
  simpa using (List.subperm_of_subset distinct fun d member =>
    List.mem_range.mpr (inRange d member)).length_le

theorem areValidGemmShapes_ranks {lhs rhs output : Shape} {batch : Nat}
    (valid : areValidGemmShapes lhs rhs output batch = true) :
    lhs.rank = batch + 2 ∧ rhs.rank = batch + 2 ∧ output.rank = batch + 2 := by
  simp only [areValidGemmShapes, isRank2, Bool.and_eq_true, beq_iff_eq] at valid
  exact ⟨valid.1.1.1.1.2, valid.1.1.1.2, valid.1.1.2⟩

section Admissible

variable {lhs rhs output : Shape} {dimNumbers : DotDimensionNumbers}

theorem contracting_singleton (admissible : DotShapesAdmissible lhs rhs output dimNumbers)
    (valid : areValidGemmShapes lhs rhs output dimNumbers.lhsBatchDimensions.length = true) :
    dimNumbers.lhsContractingDimensions.length = 1 ∧
      dimNumbers.rhsContractingDimensions.length = 1 := by
  obtain ⟨lhsRank, rhsRank, outputRank⟩ := areValidGemmShapes_ranks valid
  have lhsFree := length_freeDimensions admissible.lhsDistinct admissible.lhsInRange
  have rhsFree := length_freeDimensions admissible.rhsDistinct admissible.rhsInRange
  have lhsFits := length_listed_le admissible.lhsDistinct admissible.lhsInRange
  have rhsFits := length_listed_le admissible.rhsDistinct admissible.rhsInRange
  have := admissible.outputRank
  have := admissible.batchSizes
  have := admissible.contractingSizes
  simp only [DotDimensionNumbers.lhsListed, DotDimensionNumbers.rhsListed,
    List.length_append] at *
  omega

end Admissible

theorem dotImplementedAsGemm_admissible {dot lhs rhs : HloInstruction} (opcode : dot.opcode = .dot)
    (operands : dot.operands = [lhs, rhs])
    (admissible : DotShapesAdmissible lhs.shape rhs.shape dot.shape dot.dotDimensionNumbers) :
    dotImplementedAsGemm dot = .ok (areValidGemmShapes lhs.shape rhs.shape dot.shape
      dot.dotDimensionNumbers.lhsBatchDimensions.length) := by
  have first := HloInstruction.operand_zero operands
  have second := HloInstruction.operand_one operands
  cases valid : areValidGemmShapes lhs.shape rhs.shape dot.shape
      dot.dotDimensionNumbers.lhsBatchDimensions.length with
  | false =>
    simp [dotImplementedAsGemm, opcode, first, second, valid, bind, Except.bind, pure, Except.pure]
  | true =>
    obtain ⟨lhsOne, rhsOne⟩ := contracting_singleton admissible valid
    obtain ⟨l, lhsContracting⟩ := List.length_eq_one.mp lhsOne
    obtain ⟨r, rhsContracting⟩ := List.length_eq_one.mp rhsOne
    have lBound : l < lhs.shape.dimensions.length := admissible.lhsInRange l
      (by simp [DotDimensionNumbers.lhsListed, lhsContracting])
    have rBound : r < rhs.shape.dimensions.length := admissible.rhsInRange r
      (by simp [DotDimensionNumbers.rhsListed, rhsContracting])
    have extents := admissible.contractingExtents
    rw [lhsContracting, rhsContracting, List.forall₂_cons] at extents
    simp only [List.getD_eq_getElem?_getD, List.getElem?_eq_getElem lBound,
      List.getElem?_eq_getElem rBound, Option.getD_some] at extents
    simp [dotImplementedAsGemm, opcode, first, second, valid, lhsContracting, rhsContracting,
      lBound, rBound, extents.1, bind, Except.bind, pure, Except.pure]

theorem implementedAsGemm_admissible {hlo dot lhs rhs : HloInstruction}
    (reached : gemmDot hlo = .ok (some dot)) (operands : dot.operands = [lhs, rhs])
    (admissible : DotShapesAdmissible lhs.shape rhs.shape dot.shape dot.dotDimensionNumbers) :
    (areValidGemmShapes lhs.shape rhs.shape dot.shape
        dot.dotDimensionNumbers.lhsBatchDimensions.length = true →
      dot.dotDimensionNumbers.lhsContractingDimensions.length = 1 ∧
        dot.dotDimensionNumbers.rhsContractingDimensions.length = 1) ∧
    dotImplementedAsGemm dot = .ok (areValidGemmShapes lhs.shape rhs.shape dot.shape
      dot.dotDimensionNumbers.lhsBatchDimensions.length) ∧
    implementedAsGemm hlo = .ok (areValidGemmShapes lhs.shape rhs.shape dot.shape
      dot.dotDimensionNumbers.lhsBatchDimensions.length) := by
  have classified := dotImplementedAsGemm_admissible (gemmDot_opcode reached) operands admissible
  refine ⟨contracting_singleton admissible, classified, ?_⟩
  rw [implementedAsGemm_eq, reached]
  exact classified

theorem matmul_admissible :
    DotShapesAdmissible (matrixShape .f32 2 3) (matrixShape .f32 3 4) (matrixShape .f32 2 4)
      (matmul .f32).dotDimensionNumbers :=
  ⟨rfl, rfl, by decide, by decide, by decide, by decide, .cons rfl .nil, rfl⟩

theorem implementedAsGemm_admissible_outputFusion :
    gemmDot (outputFusion (matmul .f32) scale) = .ok (some (matmul .f32)) ∧
    ((areValidGemmShapes (matrixShape .f32 2 3) (matrixShape .f32 3 4) (matrixShape .f32 2 4)
        (matmul .f32).dotDimensionNumbers.lhsBatchDimensions.length = true →
      (matmul .f32).dotDimensionNumbers.lhsContractingDimensions.length = 1 ∧
        (matmul .f32).dotDimensionNumbers.rhsContractingDimensions.length = 1) ∧
    dotImplementedAsGemm (matmul .f32) = .ok (areValidGemmShapes (matrixShape .f32 2 3)
      (matrixShape .f32 3 4) (matrixShape .f32 2 4)
      (matmul .f32).dotDimensionNumbers.lhsBatchDimensions.length) ∧
    implementedAsGemm (outputFusion (matmul .f32) scale) = .ok (areValidGemmShapes
      (matrixShape .f32 2 3) (matrixShape .f32 3 4) (matrixShape .f32 2 4)
      (matmul .f32).dotDimensionNumbers.lhsBatchDimensions.length)) :=
  ⟨rfl, @implementedAsGemm_admissible (outputFusion (matmul .f32) scale) (matmul .f32)
    (HloInstruction.createParameter (matrixShape .f32 2 3))
    (HloInstruction.createParameter (matrixShape .f32 3 4)) rfl rfl matmul_admissible⟩

end XlaGpu
