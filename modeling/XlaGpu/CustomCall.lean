import XlaGpu.Gemm

/-!
# Library calls by name

cuDNN batch normalisations and convolutions reach the GPU backend as custom calls whose target
names the routine. A custom call is classified by its target alone, against two fixed lists;
`GetCudnnConvKind` maps a convolution target to its `CudnnConvKind` and fails on any other.

* `getCudnnConvKind_ok_iff`: each kind is returned on its own target only.
* `getCudnnConvKind_accepts`: `GetCudnnConvKind` succeeds exactly on the custom calls
  `IsCustomCallToDnnConvolution` accepts, and otherwise fails naming the target.
-/

namespace XlaGpu

def kCudnnBatchNormForwardInferenceCallTarget : String :=
  "__cudnn$batchNormalizationForwardInference"
def kCudnnBatchNormForwardTrainingCallTarget : String :=
  "__cudnn$batchNormalizationForwardTraining"
def kCudnnBatchNormBackwardCallTarget : String := "__cudnn$batchNormalizationBackward"

def kCudnnConvForwardCallTarget : String := "__cudnn$convForward"
def kCudnnConvBackwardInputCallTarget : String := "__cudnn$convBackwardInput"
def kCudnnConvBackwardFilterCallTarget : String := "__cudnn$convBackwardFilter"
def kCudnnConvBiasActivationForwardCallTarget : String := "__cudnn$convBiasActivationForward"

def isCustomCallTo (targets : List String) (hlo : HloInstruction) : Bool :=
  hlo.opcode == .customCall && targets.any (hlo.customCallTarget == ·)

def isCustomCallToDnnBatchNorm : HloInstruction → Bool :=
  isCustomCallTo [kCudnnBatchNormForwardInferenceCallTarget,
    kCudnnBatchNormForwardTrainingCallTarget, kCudnnBatchNormBackwardCallTarget]

def isCustomCallToDnnConvolution : HloInstruction → Bool :=
  isCustomCallTo [kCudnnConvForwardCallTarget, kCudnnConvBackwardInputCallTarget,
    kCudnnConvBackwardFilterCallTarget, kCudnnConvBiasActivationForwardCallTarget]

def implementedAsLibraryCall (hlo : HloInstruction) : Except Failure Bool := do
  let gemm ← implementedAsGemm hlo
  pure (gemm || isCustomCallToDnnBatchNorm hlo || isCustomCallToDnnConvolution hlo)

inductive CudnnConvKind where
  | forward | backwardInput | backwardFilter | forwardActivation
  deriving DecidableEq, Repr

inductive ErrorCode where
  | internal
  deriving DecidableEq, Repr

structure Status where
  code : ErrorCode
  message : String
  deriving DecidableEq, Repr

def internalError (message : String) : Status := ⟨.internal, message⟩

def getCudnnConvKind (instr : HloInstruction) : Except Status CudnnConvKind :=
  let target := instr.customCallTarget
  if target = kCudnnConvForwardCallTarget then .ok .forward
  else if target = kCudnnConvBackwardInputCallTarget then .ok .backwardInput
  else if target = kCudnnConvBackwardFilterCallTarget then .ok .backwardFilter
  else if target = kCudnnConvBiasActivationForwardCallTarget then .ok .forwardActivation
  else .error (internalError ("Unexpected call target: " ++ target))

def cudnnConvKindToString : CudnnConvKind → String
  | .forward => "forward"
  | .backwardFilter => "backward_filter"
  | .backwardInput => "backward_input"
  | .forwardActivation => "forward with activation"

theorem isCustomCallTo_iff {targets : List String} {hlo : HloInstruction} :
    isCustomCallTo targets hlo = true ↔
      hlo.opcode = .customCall ∧ hlo.customCallTarget ∈ targets := by
  simp [isCustomCallTo]

def cudnnConvKindTarget : CudnnConvKind → String
  | .forward => kCudnnConvForwardCallTarget
  | .backwardInput => kCudnnConvBackwardInputCallTarget
  | .backwardFilter => kCudnnConvBackwardFilterCallTarget
  | .forwardActivation => kCudnnConvBiasActivationForwardCallTarget

theorem mem_convolutionTargets_iff {target : String} :
    target ∈ [kCudnnConvForwardCallTarget, kCudnnConvBackwardInputCallTarget,
      kCudnnConvBackwardFilterCallTarget, kCudnnConvBiasActivationForwardCallTarget] ↔
      ∃ kind, target = cudnnConvKindTarget kind := by
  constructor
  · simp only [List.mem_cons, List.mem_singleton, List.not_mem_nil, or_false]
    rintro (known | known | known | known)
    exacts [⟨.forward, known⟩, ⟨.backwardInput, known⟩, ⟨.backwardFilter, known⟩,
      ⟨.forwardActivation, known⟩]
  · rintro ⟨kind, rfl⟩
    cases kind <;> simp [cudnnConvKindTarget]

theorem getCudnnConvKind_ok_iff {instr : HloInstruction} {kind : CudnnConvKind} :
    getCudnnConvKind instr = .ok kind ↔ instr.customCallTarget = cudnnConvKindTarget kind := by
  constructor
  · intro found
    simp only [getCudnnConvKind] at found
    split_ifs at found <;> cases found <;> assumption
  · intro known
    cases kind <;> simp [getCudnnConvKind, known, cudnnConvKindTarget,
      kCudnnConvForwardCallTarget, kCudnnConvBackwardInputCallTarget,
      kCudnnConvBackwardFilterCallTarget, kCudnnConvBiasActivationForwardCallTarget]

theorem getCudnnConvKind_of_not_mem {instr : HloInstruction}
    (unknown : instr.customCallTarget ∉ [kCudnnConvForwardCallTarget,
      kCudnnConvBackwardInputCallTarget, kCudnnConvBackwardFilterCallTarget,
      kCudnnConvBiasActivationForwardCallTarget]) :
    getCudnnConvKind instr =
      .error (internalError ("Unexpected call target: " ++ instr.customCallTarget)) := by
  simp only [List.mem_cons, List.mem_singleton, List.not_mem_nil, or_false, not_or] at unknown
  simp only [getCudnnConvKind, if_neg unknown.1, if_neg unknown.2.1, if_neg unknown.2.2.1,
    if_neg unknown.2.2.2]

theorem getCudnnConvKind_accepts {instr : HloInstruction}
    (customCall : instr.opcode = .customCall) :
    ((∃ kind, getCudnnConvKind instr = .ok kind) ↔
      isCustomCallToDnnConvolution instr = true) ∧
    (isCustomCallToDnnConvolution instr = false → getCudnnConvKind instr =
      .error (internalError ("Unexpected call target: " ++ instr.customCallTarget))) := by
  have accepted : isCustomCallToDnnConvolution instr = true ↔
      ∃ kind, instr.customCallTarget = cudnnConvKindTarget kind := by
    rw [isCustomCallToDnnConvolution, isCustomCallTo_iff, ← mem_convolutionTargets_iff]
    exact and_iff_right customCall
  refine ⟨by simp only [getCudnnConvKind_ok_iff, accepted], fun rejected => ?_⟩
  refine getCudnnConvKind_of_not_mem fun known => ?_
  rw [mem_convolutionTargets_iff, ← accepted, rejected] at known
  contradiction

def customCallOf (target : String) : HloInstruction :=
  ⟨.customCall, ⟨.f32, [], ⟨[]⟩⟩, [], ⟨[], [], [], []⟩, .loop, none, target, []⟩

theorem getCudnnConvKind_accepts_trailingSpace :
    ((∃ kind, getCudnnConvKind (customCallOf "__cudnn$convForward ") = .ok kind) ↔
        isCustomCallToDnnConvolution (customCallOf "__cudnn$convForward ") = true) ∧
      (isCustomCallToDnnConvolution (customCallOf "__cudnn$convForward ") = false →
        getCudnnConvKind (customCallOf "__cudnn$convForward ") =
          .error (internalError ("Unexpected call target: " ++ "__cudnn$convForward "))) :=
  getCudnnConvKind_accepts rfl

end XlaGpu
