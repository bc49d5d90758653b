import XlaGpu.Hlo

/-!
# Which products go to the BLAS gemm

`IsRank2`, `AreValidGemmShapes`, `DotImplementedAsGemm` and `ImplementedAsGemm`. As in the
code, `AreValidGemmShapes` checks the element type of the output only, though its comment asks
for an allowed type on the inputs too.

* `implementedAsGemm_eq`: `ImplementedAsGemm` classifies the dot `gemmDot` picks, the
  instruction itself or an operand of an output fusion's multiply or add root.
* `implementedAsGemm_outputFusion`: on such a fusion the first operand that is a dot decides,
  and swapping the two operands changes nothing unless both are dots classified differently.
* `implementedAsGemm_first_dot_decides`: a fusion whose first operand is a rejected dot, one with
  an empty contracted dimension, and whose second is an accepted one is not a gemm, though its
  mirror image is.
-/

namespace XlaGpu

def isRank2 (shape : Shape) (batchDimensionsSize : Nat) : Bool :=
  shape.rank == batchDimensionsSize + 2

def areValidGemmShapes (lhsShape rhsShape outputShape : Shape)
    (batchDimensionsSize : Nat) : Bool :=
  let outputPrimitiveType := outputShape.elementType
  let typeIsAllowed :=
    outputPrimitiveType == .f16 || outputPrimitiveType == .f32 ||
      outputPrimitiveType == .f64 || outputPrimitiveType == .c64 ||
      outputPrimitiveType == .c128
  typeIsAllowed && isRank2 lhsShape batchDimensionsSize &&
    isRank2 rhsShape batchDimensionsSize && isRank2 outputShape batchDimensionsSize &&
    !ShapeUtil.isZeroElementArray lhsShape && !ShapeUtil.isZeroElementArray rhsShape

def dotImplementedAsGemm (dot : HloInstruction) : Except Failure Bool := do
  check (dot.opcode == .dot) "dot.opcode() == HloOpcode::kDot"
  let lhsShape := (← dot.operand 0).shape
  let rhsShape := (← dot.operand 1).shape
  let dimNumbers := dot.dotDimensionNumbers
  if areValidGemmShapes lhsShape rhsShape dot.shape dimNumbers.lhsBatchDimensions.length then
    let lhsExtent ←
      elementAt lhsShape.dimensions (← elementAt dimNumbers.lhsContractingDimensions 0)
    let rhsExtent ←
      elementAt rhsShape.dimensions (← elementAt dimNumbers.rhsContractingDimensions 0)
    check (lhsExtent == rhsExtent)
      ("lhs_shape.dimensions(dim_numbers.lhs_contracting_dimensions(0)) == " ++
        "rhs_shape.dimensions(dim_numbers.rhs_contracting_dimensions(0))")
    pure true
  else
    pure false

def findFusedDot (root : HloInstruction) : Except Failure HloInstruction := do
  let dot ← root.operand 0
  if dot.opcode ≠ .dot then root.operand 1 else pure dot

def implementedAsGemm (hlo : HloInstruction) : Except Failure Bool :=
  if hlo.opcode = .dot then dotImplementedAsGemm hlo
  else if hlo.opcode = .fusion ∧ hlo.fusionKind = .output then do
    let root ← hlo.fusedExpressionRoot
    if root.opcode = .multiply ∨ root.opcode = .add then
      let dot ← findFusedDot root
      if dot.opcode = .dot then dotImplementedAsGemm dot else pure false
    else pure false
  else pure false

/-! ## The dot that is classified -/

def gemmDot (hlo : HloInstruction) : Except Failure (Option HloInstruction) :=
  if hlo.opcode = .dot then pure (some hlo)
  else if hlo.opcode = .fusion ∧ hlo.fusionKind = .output then do
    let root ← hlo.fusedExpressionRoot
    if root.opcode = .multiply ∨ root.opcode = .add then
      let dot ← findFusedDot root
      pure (if dot.opcode = .dot then some dot else none)
    else pure none
  else pure none

def classifyGemmDot : Option HloInstruction → Except Failure Bool
  | some dot => dotImplementedAsGemm dot
  | none => pure false

theorem implementedAsGemm_eq (hlo : HloInstruction) :
    implementedAsGemm hlo = gemmDot hlo >>= classifyGemmDot := by
  unfold implementedAsGemm gemmDot
  by_cases dot : hlo.opcode = .dot
  · rw [if_pos dot, if_pos dot]
    rfl
  rw [if_neg dot, if_neg dot]
  by_cases output : hlo.opcode = .fusion ∧ hlo.fusionKind = .output
  · rw [if_pos output, if_pos output]
    cases hlo.fusedExpressionRoot with
    | error failure => rfl
    | ok root =>
      by_cases product : root.opcode = .multiply ∨ root.opcode = .add
      · simp only [bind, Except.bind, if_pos product]
        cases findFusedDot root with
        | error failure => rfl
        | ok found =>
          by_cases isDot : found.opcode = .dot
          · simp only [if_pos isDot, pure, Except.pure]; rfl
          · simp only [if_neg isDot, pure, Except.pure]; rfl
      · simp only [bind, Except.bind, if_neg product]; rfl
  · rw [if_neg output, if_neg output]
    rfl

theorem gemmDot_opcode {hlo dot : HloInstruction} (picked : gemmDot hlo = .ok (some dot)) :
    dot.opcode = .dot := by
  unfold gemmDot at picked
  by_cases isDot : hlo.opcode = .dot
  · rw [if_pos isDot] at picked
    cases picked
    exact isDot
  rw [if_neg isDot] at picked
  by_cases output : hlo.opcode = .fusion ∧ hlo.fusionKind = .output
  · rw [if_pos output] at picked
    cases root : hlo.fusedExpressionRoot with
    | error failure => simp [root, bind, Except.bind] at picked
    | ok root' =>
      by_cases product : root'.opcode = .multiply ∨ root'.opcode = .add
      · cases found : findFusedDot root' with
        | error failure => simp [root, found, product, bind, Except.bind] at picked
        | ok found' =>
          by_cases fusedDot : found'.opcode = .dot
          · simp [root, found, product, fusedDot, bind, Except.bind, pure, Except.pure] at picked
            exact picked ▸ fusedDot
          · simp [root, found, product, fusedDot, bind, Except.bind, pure, Except.pure] at picked
      · simp [root, product, bind, Except.bind, pure, Except.pure] at picked
  · rw [if_neg output] at picked
    cases picked

section OutputFusion

variable {hlo root a b : HloInstruction}

def swapRootOperands (hlo root : HloInstruction) (a b : HloInstruction) : HloInstruction :=
  { hlo with fusedRoot := some { root with operands := [b, a] } }

theorem gemmDot_outputFusion (fusion : hlo.opcode = .fusion) (output : hlo.fusionKind = .output)
    (fused : hlo.fusedRoot = some root)
    (elementwise : root.opcode = .multiply ∨ root.opcode = .add)
    (operands : root.operands = [a, b]) :
    gemmDot hlo = .ok (if a.opcode = .dot then some a
      else if b.opcode = .dot then some b else none) := by
  by_cases first : a.opcode = .dot <;>
    simp [gemmDot, fusion, output, HloInstruction.fusedExpressionRoot_some fused, elementwise,
      findFusedDot, HloInstruction.operand_zero operands, HloInstruction.operand_one operands,
      first, bind, Except.bind, pure, Except.pure]

theorem implementedAsGemm_outputFusion (fusion : hlo.opcode = .fusion)
    (output : hlo.fusionKind = .output) (fused : hlo.fusedRoot = some root)
    (elementwise : root.opcode = .multiply ∨ root.opcode = .add)
    (operands : root.operands = [a, b]) :
    implementedAsGemm hlo = (if a.opcode = .dot then dotImplementedAsGemm a
      else if b.opcode = .dot then dotImplementedAsGemm b else .ok false) ∧
    ((a.opcode = .dot → b.opcode = .dot → dotImplementedAsGemm a = dotImplementedAsGemm b) →
      implementedAsGemm (swapRootOperands hlo root a b) = implementedAsGemm hlo) := by
  have picked := gemmDot_outputFusion fusion output fused elementwise operands
  have swapped : gemmDot (swapRootOperands hlo root a b) = .ok (if b.opcode = .dot then some b
      else if a.opcode = .dot then some a else none) :=
    @gemmDot_outputFusion (swapRootOperands hlo root a b) { root with operands := [b, a] } b a
      fusion output rfl elementwise rfl
  rw [implementedAsGemm_eq, implementedAsGemm_eq, picked, swapped]
  by_cases first : a.opcode = .dot <;> by_cases second : b.opcode = .dot <;>
    simp [first, second, bind, Except.bind, pure, Except.pure, classifyGemmDot]
  exact fun same => same.symm

end OutputFusion

/-! ## A fusion whose first dot is rejected -/

def matrixShape (elementType : PrimitiveType) (rows cols : Nat) : Shape :=
  ⟨elementType, [rows, cols], ⟨[1, 0]⟩⟩

def matmul (elementType : PrimitiveType) : HloInstruction :=
  ⟨.dot, matrixShape elementType 2 4,
    [HloInstruction.createParameter (matrixShape elementType 2 3),
      HloInstruction.createParameter (matrixShape elementType 3 4)],
    ⟨[1], [0], [], []⟩, .loop, none, "", []⟩

def multiplyRoot (a b : HloInstruction) : HloInstruction :=
  ⟨.multiply, matrixShape .f32 2 4, [a, b], ⟨[], [], [], []⟩, .loop, none, "", []⟩

def outputFusion (a b : HloInstruction) : HloInstruction :=
  ⟨.fusion, matrixShape .f32 2 4, [], ⟨[], [], [], []⟩, .output, some (multiplyRoot a b), "",
    []⟩

def scale : HloInstruction := HloInstruction.createParameter (matrixShape .f32 2 4)

theorem implementedAsGemm_outputFusion_scale :
    implementedAsGemm (outputFusion (matmul .f32) scale) =
        (if (matmul .f32).opcode = .dot then dotImplementedAsGemm (matmul .f32)
          else if scale.opcode = .dot then dotImplementedAsGemm scale else .ok false) ∧
      (((matmul .f32).opcode = .dot → scale.opcode = .dot →
          dotImplementedAsGemm (matmul .f32) = dotImplementedAsGemm scale) →
        implementedAsGemm (swapRootOperands (outputFusion (matmul .f32) scale)
            (multiplyRoot (matmul .f32) scale) (matmul .f32) scale) =
          implementedAsGemm (outputFusion (matmul .f32) scale)) :=
  implementedAsGemm_outputFusion rfl rfl rfl (.inl rfl) rfl

def emptyMatmul : HloInstruction :=
  { matmul .f32 with operands := [HloInstruction.createParameter (matrixShape .f32 2 0),
      HloInstruction.createParameter (matrixShape .f32 0 4)] }

theorem implementedAsGemm_first_dot_decides :
    dotImplementedAsGemm emptyMatmul = .ok false ∧ dotImplementedAsGemm (matmul .f32) = .ok true ∧
      implementedAsGemm (outputFusion emptyMatmul (matmul .f32)) = .ok false ∧
      implementedAsGemm (outputFusion (matmul .f32) emptyMatmul) = .ok true :=
  ⟨rfl, rfl, rfl, rfl⟩

end XlaGpu
