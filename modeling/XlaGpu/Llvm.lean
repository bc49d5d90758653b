import Mathlib.Algebra.Group.Nat.Basic
import Mathlib.Data.List.Basic
import XlaGpu.Hlo

/-!
# LLVM IR on a wavefront

The emitters build LLVM IR through an `IRBuilder`; the IR they build runs on every lane of a
wavefront in lockstep. An `llvm::Value*` is modelled by what it denotes: its type, one of the
`IrType`s the emitters meet, and the bits it holds on each lane. Each builder call is interpreted
as it is made, on all lanes at once, so a sequence of builder calls denotes the instructions it
emits. A call LLVM would reject stops with the assertion it fails: `castIsValid` for a cast,
`MIN_INT_BITS` and `MAX_INT_BITS` (`2 ^ 24 - 1`) for an integer type, a positive element count
for a vector type. `CreateCast` returns a value that already has the destination type as it is.
An element index past the end of a vector reads zero and writes nothing; LLVM makes it poison,
and the emitters never use one.

The data layout is little-endian: element `i` of a vector of `width`-bit elements occupies bits
`[width * i, width * i + width)` of the integer it is bit-cast to or from (`toSegments`,
`ofSegments`).

A `Module` lists its declared functions with their signatures and function attributes; its
symbol table gives a name to at most one. `getOrInsertFunction` also returns what
`dyn_cast<Function>` makes of the result: a function declared under the name with another
signature comes back as a cast, which is no function. A `Builder` is the module it emits into
and the callees of the calls it has emitted, in order.

* `ofSegments_toSegments`, `toSegments_ofSegments`: the two directions of that layout.
* `createCast_ok`: a valid cast keeps the bits and changes the type.
-/

namespace XlaGpu

inductive IrType where
  | half | float | double
  | int (width : Nat)
  | vector (count : Nat) (element : IrType)
  | struct (name : String)
  | pointer
  deriving DecidableEq, Repr

namespace IrType

def isFloatTy : IrType → Bool
  | float => true
  | _ => false

def getPrimitiveSizeInBits : IrType → Nat
  | half => 16
  | float => 32
  | double => 64
  | int width => width
  | vector count element => count * element.getPrimitiveSizeInBits
  | struct _ => 0
  | pointer => 0

def getScalarType : IrType → IrType
  | vector _ element => element
  | type => type

def isIntegerTy : IrType → Bool
  | int _ => true
  | _ => false

def isPointerTy : IrType → Bool
  | pointer => true
  | _ => false

def isAggregateType : IrType → Bool
  | struct _ => true
  | _ => false

def getVectorNumElements : IrType → Nat
  | vector count _ => count
  | _ => 1

end IrType

inductive CastOp where
  | bitCast | zExt | trunc
  deriving DecidableEq, Repr

def castIsValid (op : CastOp) (srcTy destTy : IrType) : Bool :=
  !srcTy.isAggregateType && !destTy.isAggregateType &&
  match op with
  | .zExt => srcTy.isIntegerTy && destTy.isIntegerTy &&
      srcTy.getPrimitiveSizeInBits < destTy.getPrimitiveSizeInBits
  | .trunc => srcTy.isIntegerTy && destTy.isIntegerTy &&
      destTy.getPrimitiveSizeInBits < srcTy.getPrimitiveSizeInBits
  | .bitCast => srcTy.getScalarType.isPointerTy == destTy.getScalarType.isPointerTy &&
      (srcTy.getScalarType.isPointerTy ||
        srcTy.getPrimitiveSizeInBits == destTy.getPrimitiveSizeInBits)

def CastOp.apply : CastOp → IrType → Nat → Nat
  | .trunc, destTy, bits => bits % 2 ^ destTy.getPrimitiveSizeInBits
  | _, _, bits => bits

theorem castIsValid_bitCast_comm (srcTy destTy : IrType) :
    castIsValid .bitCast srcTy destTy = castIsValid .bitCast destTy srcTy := by
  simp only [castIsValid]
  cases srcTy.isAggregateType <;> cases destTy.isAggregateType <;>
    cases srcTy.getScalarType.isPointerTy <;> cases destTy.getScalarType.isPointerTy <;>
    simp [eq_comm]

/-! ## Vector elements -/

def toSegments (width : Nat) : Nat → Nat → List Nat
  | 0, _ => []
  | count + 1, bits => bits % 2 ^ width :: toSegments width count (bits / 2 ^ width)

def ofSegments (width : Nat) : List Nat → Nat
  | [] => 0
  | segment :: rest => segment + 2 ^ width * ofSegments width rest

@[simp] theorem length_toSegments (width count bits : Nat) :
    (toSegments width count bits).length = count := by
  induction count generalizing bits <;> simp [toSegments, *]

theorem toSegments_lt {width count bits segment : Nat}
    (member : segment ∈ toSegments width count bits) : segment < 2 ^ width := by
  induction count generalizing bits with
  | zero => simp [toSegments] at member
  | succ count ih =>
    rcases List.mem_cons.mp member with rfl | member
    · exact Nat.mod_lt _ (Nat.two_pow_pos width)
    · exact ih member

theorem ofSegments_toSegments (width count bits : Nat) :
    ofSegments width (toSegments width count bits) = bits % 2 ^ (width * count) := by
  induction count generalizing bits with
  | zero => simp [toSegments, ofSegments, Nat.mod_one]
  | succ count ih =>
    rw [toSegments, ofSegments, ih, Nat.mul_succ, Nat.pow_add,
      Nat.mul_comm (2 ^ (width * count)), Nat.mod_mul]

theorem toSegments_ofSegments {width : Nat} {segments : List Nat}
    (fit : ∀ segment ∈ segments, segment < 2 ^ width) :
    toSegments width segments.length (ofSegments width segments) = segments := by
  induction segments with
  | nil => rfl
  | cons segment rest ih =>
    have low := fit segment (.head _)
    rw [List.length_cons, toSegments, ofSegments, Nat.add_mul_mod_self_left, Nat.mod_eq_of_lt low,
      Nat.add_mul_div_left _ _ (Nat.two_pow_pos width), Nat.div_eq_of_lt low, Nat.zero_add,
      ih fun s member => fit s (.tail _ member)]

theorem set_take_append_drop {own other : List Nat} {k : Nat}
    (length : other.length = own.length) (bound : k < other.length) :
    (other.take k ++ own.drop k).set k other[k] = other.take (k + 1) ++ own.drop (k + 1) := by
  induction other generalizing own k with
  | nil => simp at bound
  | cons head tail ih =>
    cases own with
    | nil => simp at length
    | cons ownHead ownTail =>
      cases k with
      | zero => simp
      | succ k =>
        simp only [List.take_succ_cons, List.drop_succ_cons, List.cons_append, List.set_cons_succ,
          List.getElem_cons_succ]
        rw [ih (by simpa using length) (by simpa using bound)]

/-! ## Values and the builder calls that make them -/

structure Value (Lane : Type) where
  type : IrType
  bits : Lane → Nat

section Builder

variable {Lane : Type}

def maxIntBits : Nat := 2 ^ 24 - 1

def getIntNTy (numBits : Nat) : Except Failure IrType :=
  if numBits = 0 then .error (.checkFailed "NumBits >= MIN_INT_BITS && \"bitwidth too small\"")
  else if maxIntBits < numBits then
    .error (.checkFailed "NumBits <= MAX_INT_BITS && \"bitwidth too large\"")
  else .ok (.int numBits)

def vectorTypeGet (elementType : IrType) (numElements : Nat) : Except Failure IrType :=
  if numElements = 0 then
    .error (.checkFailed ("NumElements > 0 && " ++
      "\"#Elements of a VectorType must be greater than 0\""))
  else .ok (.vector numElements elementType)

theorem getIntNTy_ok {numBits : Nat} (pos : 0 < numBits) (fits : numBits ≤ maxIntBits) :
    getIntNTy numBits = .ok (.int numBits) := by
  simp [getIntNTy, Nat.pos_iff_ne_zero.mp pos, Nat.not_lt.mpr fits]

theorem vectorTypeGet_pos {elementType : IrType} {numElements : Nat} (pos : 0 < numElements) :
    vectorTypeGet elementType numElements = .ok (.vector numElements elementType) := by
  simp [vectorTypeGet, Nat.pos_iff_ne_zero.mp pos]

def createCast (op : CastOp) (v : Value Lane) (destTy : IrType) : Except Failure (Value Lane) :=
  if v.type = destTy then .ok v
  else if castIsValid op v.type destTy then
    .ok ⟨destTy, fun lane => op.apply destTy (v.bits lane)⟩
  else .error (.checkFailed "castIsValid(op, S, Ty) && \"Invalid cast!\"")

def createBitCast (v : Value Lane) (destTy : IrType) : Except Failure (Value Lane) :=
  createCast .bitCast v destTy

def createZExt (v : Value Lane) (destTy : IrType) : Except Failure (Value Lane) :=
  createCast .zExt v destTy

def createTrunc (v : Value Lane) (destTy : IrType) : Except Failure (Value Lane) :=
  createCast .trunc v destTy

def IrType.isVectorTy : IrType → Bool
  | .vector _ _ => true
  | _ => false

def Value.elements (vec : Value Lane) (lane : Lane) : List Nat :=
  toSegments vec.type.getScalarType.getPrimitiveSizeInBits vec.type.getVectorNumElements
    (vec.bits lane)

def createExtractElement (vec : Value Lane) (idx : Nat) : Except Failure (Value Lane) :=
  if vec.type.isVectorTy then
    .ok ⟨vec.type.getScalarType, fun lane => (vec.elements lane).getD idx 0⟩
  else .error (.checkFailed ("isValidOperands(Val, Index) && " ++
    "\"Invalid extractelement instruction operands!\""))

def createInsertElement (vec newElt : Value Lane) (idx : Nat) : Except Failure (Value Lane) :=
  if vec.type.isVectorTy ∧ newElt.type = vec.type.getScalarType then
    .ok ⟨vec.type, fun lane => ofSegments vec.type.getScalarType.getPrimitiveSizeInBits
      ((vec.elements lane).set idx (newElt.bits lane))⟩
  else .error (.checkFailed ("isValidOperands(Vec, Elt, Index) && " ++
    "\"Invalid insertelement instruction operands!\""))

def getInt32 (c : Nat) : Value Lane := ⟨.int 32, fun _ => c % 2 ^ 32⟩

def createICmpEQ (lhs rhs : Value Lane) : Except Failure (Value Lane) :=
  if lhs.type ≠ rhs.type then
    .error (.checkFailed ("getOperand(0)->getType() == getOperand(1)->getType() && " ++
      "\"Both operands to ICmp instruction are not of the same type!\""))
  else if !(lhs.type.isIntegerTy || lhs.type.isPointerTy) then
    .error (.checkFailed ("(getOperand(0)->getType()->isIntOrIntVectorTy() || " ++
      "getOperand(0)->getType()->isPtrOrPtrVectorTy()) && " ++
      "\"Invalid operand types for ICmp instruction\""))
  else .ok ⟨.int 1, fun lane => if lhs.bits lane = rhs.bits lane then 1 else 0⟩

def createAnd (lhs rhs : Value Lane) : Except Failure (Value Lane) :=
  if lhs.type ≠ rhs.type then
    .error (.checkFailed ("LHS->getType() == RHS->getType() && " ++
      "\"Binary operator operand types must match!\""))
  else if !lhs.type.isIntegerTy then
    .error (.checkFailed ("getType()->isIntOrIntVectorTy() && " ++
      "\"Tried to create a logical operation on a non-integral type!\""))
  else .ok ⟨lhs.type, fun lane => lhs.bits lane &&& rhs.bits lane⟩

theorem createCast_ok {op : CastOp} {v : Value Lane} {destTy : IrType}
    (valid : v.type = destTy ∨ castIsValid op v.type destTy = true)
    (keeps : ∀ lane, op.apply destTy (v.bits lane) = v.bits lane) :
    createCast op v destTy = .ok ⟨destTy, v.bits⟩ := by
  unfold createCast
  split
  · next same => rw [← same]
  · simp [valid.resolve_left ‹_›, funext keeps]

theorem createExtractElement_vector {count : Nat} {element : IrType} {vec : Value Lane} {idx : Nat}
    (vector : vec.type = .vector count element) :
    createExtractElement vec idx =
      .ok ⟨element, fun lane =>
        (toSegments element.getPrimitiveSizeInBits count (vec.bits lane)).getD idx 0⟩ := by
  simp [createExtractElement, Value.elements, vector, IrType.isVectorTy, IrType.getScalarType,
    IrType.getVectorNumElements]

theorem createInsertElement_vector {count : Nat} {element : IrType} {vec newElt : Value Lane}
    {idx : Nat} (vector : vec.type = .vector count element) (elementType : newElt.type = element) :
    createInsertElement vec newElt idx =
      .ok ⟨.vector count element, fun lane => ofSegments element.getPrimitiveSizeInBits
        ((toSegments element.getPrimitiveSizeInBits count (vec.bits lane)).set idx
          (newElt.bits lane))⟩ := by
  simp [createInsertElement, Value.elements, vector, elementType, IrType.isVectorTy,
    IrType.getScalarType, IrType.getVectorNumElements]

end Builder

/-! ## Modules -/

structure FunctionType where
  result : IrType
  params : List IrType
  deriving DecidableEq, Repr

inductive AttrKind where
  | convergent | noUnwind | readNone | readOnly
  deriving DecidableEq, Repr

structure FunctionDecl where
  name : String
  type : FunctionType
  attributes : List AttrKind
  deriving DecidableEq, Repr

structure Module where
  functions : List FunctionDecl
  unique : (functions.map FunctionDecl.name).Nodup

namespace Module

def getOrInsertFunction (module : Module) (name : String) (type : FunctionType) :
    Module × Option FunctionDecl :=
  match found : module.functions.find? (·.name = name) with
  | some function => (module, if function.type = type then some function else none)
  | none =>
    (⟨module.functions ++ [⟨name, type, []⟩], by
      rw [List.map_append, List.nodup_append]
      refine ⟨module.unique, List.nodup_singleton _, ?_⟩
      simp only [List.map_cons, List.map_nil, List.disjoint_singleton, List.mem_map, not_exists,
        not_and]
      intro function member same
      exact absurd found
        (List.find?_eq_none.not.mpr (not_forall.mpr ⟨function, by simp_all⟩))⟩,
      some ⟨name, type, []⟩)

def addFnAttr (module : Module) (name : String) (attr : AttrKind) : Module :=
  ⟨module.functions.map fun function =>
      if function.name = name ∧ attr ∉ function.attributes then
        { function with attributes := function.attributes ++ [attr] }
      else function, by
    rw [List.map_map]
    convert module.unique using 2
    funext function
    simp only [Function.comp_apply]
    split <;> rfl⟩

end Module

structure Builder where
  module : Module
  calls : List String

end XlaGpu
