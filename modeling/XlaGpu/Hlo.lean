import XlaGpu.Shape

/-!
# HLO instructions

The part of `HloInstruction` the GPU classifiers read: the opcode, the shape, the operands, and
the fields that only some opcodes carry (the dot dimension numbers of a dot, the kind and the
fused root of a fusion, the target of a custom call, the reduced dimensions of a reduce).

XLA's accessors stop the compiler instead of returning when they are misused: `operand(i)`
with `i` out of range, a repeated field read past its end, a `CHECK` that fails. `Failure`
records which; a classifier that may stop returns `Except Failure`.
-/

namespace XlaGpu

inductive HloOpcode where
  | add | customCall | dot | fusion | multiply | parameter | reduce
  | other (name : String)
  deriving DecidableEq, Repr

inductive FusionKind where
  | loop | input | output | custom
  deriving DecidableEq, Repr

structure DotDimensionNumbers where
  lhsContractingDimensions : List Nat
  rhsContractingDimensions : List Nat
  lhsBatchDimensions : List Nat
  rhsBatchDimensions : List Nat
  deriving DecidableEq, Repr

structure HloInstruction where
  opcode : HloOpcode
  shape : Shape
  operands : List HloInstruction
  dotDimensionNumbers : DotDimensionNumbers
  fusionKind : FusionKind
  fusedRoot : Option HloInstruction
  customCallTarget : String
  dimensions : List Nat
  deriving Repr

inductive Failure where
  | checkFailed (condition : String)
  | outOfRange
  | nullDereference
  deriving DecidableEq, Repr

def check (condition : Bool) (text : String) : Except Failure Unit :=
  if condition then .ok () else .error (.checkFailed text)

def elementAt (xs : List Nat) (i : Nat) : Except Failure Nat :=
  match xs[i]? with
  | some x => .ok x
  | none => .error .outOfRange

@[simp] theorem check_true (text : String) : check true text = .ok () := rfl

@[simp] theorem elementAt_of_lt {xs : List Nat} {i : Nat} (bound : i < xs.length) :
    elementAt xs i = .ok xs[i] := by
  simp [elementAt, List.getElem?_eq_getElem bound]

namespace HloInstruction

def operand (hlo : HloInstruction) (i : Nat) : Except Failure HloInstruction :=
  match hlo.operands[i]? with
  | some op => .ok op
  | none => .error .outOfRange

def fusedExpressionRoot (hlo : HloInstruction) : Except Failure HloInstruction :=
  match hlo.fusedRoot with
  | some root => .ok root
  | none => .error .nullDereference

def createParameter (shape : Shape) : HloInstruction :=
  ⟨.parameter, shape, [], ⟨[], [], [], []⟩, .loop, none, "", []⟩

@[simp] theorem operand_zero {hlo first : HloInstruction} {rest : List HloInstruction}
    (operands : hlo.operands = first :: rest) : hlo.operand 0 = .ok first := by
  simp [operand, operands]

@[simp] theorem operand_one {hlo first second : HloInstruction} {rest : List HloInstruction}
    (operands : hlo.operands = first :: second :: rest) : hlo.operand 1 = .ok second := by
  simp [operand, operands]

@[simp] theorem fusedExpressionRoot_some {hlo root : HloInstruction}
    (fused : hlo.fusedRoot = some root) : hlo.fusedExpressionRoot = .ok root := by
  simp [fusedExpressionRoot, fused]

end HloInstruction

end XlaGpu
