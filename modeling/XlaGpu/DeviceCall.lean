import XlaGpu.Llvm

/-!
# Calls to device functions

`EmitDeviceFunctionCall` declares the callee in the module, unless it is declared already, adds
the requested attributes and emits the call. What the call computes is the device function's: a
`DeviceFunction` maps the bits of the operands on every lane to the bits of the result on each
lane, so a function that reads across lanes is one like any other. A callee declared under
another signature leaves `dyn_cast<Function>` nothing to call (`Failure.nullDereference`).

Two collaborators are not in the repository and are modelled from the spec and upstream XLA.
`llvm_ir::PrimitiveTypeToIrType` gives integers and floats an LLVM type of their width, complex
numbers a named pair, and tuples, opaque handles and tokens an `i8*`.
`llvm_ir::EmitCallToTargetIntrinsic` declares the target's intrinsic, named by the target
builder, as an `i32 ()` function through `Intrinsic::getDeclaration`, whose `cast<Function>`
asserts when the name is declared with another type, emits a call to it and returns the index it
reads on each lane. `IsBlock0Thread0` makes two such calls; C++ leaves the order of the
operands of `CreateAnd` unspecified, and the model reads the thread index first.

* `emitDeviceFunctionCall_ok`: in a module that declares the callee with no other signature, the
  call succeeds, returns what the device function computes, and leaves the module so.
* `emitDeviceFunctionCall_idempotent`: emitting the same call again declares nothing new.
-/

namespace XlaGpu

def primitiveTypeToIrType : PrimitiveType → Except Failure IrType
  | .pred | .s8 | .u8 => .ok (.int 8)
  | .s16 | .u16 | .bf16 => .ok (.int 16)
  | .f16 => .ok .half
  | .s32 | .u32 => .ok (.int 32)
  | .s64 | .u64 => .ok (.int 64)
  | .f32 => .ok .float
  | .f64 => .ok .double
  | .c64 => .ok (.struct "complex64")
  | .c128 => .ok (.struct "complex128")
  | .tuple | .opaqueType => .ok .pointer
  | .token => .ok .pointer
  | .primitiveTypeInvalid => .error (.checkFailed "unsupported type PRIMITIVE_TYPE_INVALID")

def DeviceFunction (Lane : Type) : Type := List (Lane → Nat) → Lane → Nat

abbrev EmitM := StateT Builder (Except Failure)

theorem EmitM.bind_ok {α β : Type} {m : EmitM α} {f : α → EmitM β}
    {builder builder' : Builder} {a : α} (first : m builder = .ok (a, builder')) :
    (m >>= f) builder = f a builder' := by
  simp [bind, StateT.bind, first, Except.bind]

theorem StateT.lift_ok {σ ε α : Type} {e : Except ε α} {a : α} (ok : e = .ok a) (state : σ) :
    (liftM e : StateT σ (Except ε) α) state = .ok (a, state) := by
  simp [ok, liftM, monadLift, MonadLift.monadLift, StateT.lift, bind, Except.bind, pure,
    Except.pure]

theorem EmitM.lift_ok {α : Type} {e : Except Failure α} {a : α} (ok : e = .ok a)
    (builder : Builder) : (liftM e : EmitM α) builder = .ok (a, builder) :=
  StateT.lift_ok ok builder

theorem EmitM.pure_run {α : Type} (a : α) (builder : Builder) :
    (pure a : EmitM α) builder = .ok (a, builder) := rfl

theorem EmitM.bind_error {α β : Type} {m : EmitM α} {f : α → EmitM β} {builder : Builder}
    {failure : Failure} (first : m builder = .error failure) :
    (m >>= f) builder = .error failure := by
  simp [bind, StateT.bind, first, Except.bind]

theorem EmitM.lift_error {α : Type} {e : Except Failure α} {failure : Failure}
    (fails : e = .error failure) (builder : Builder) :
    (liftM e : EmitM α) builder = .error failure := by
  simp [fails, liftM, monadLift, MonadLift.monadLift, StateT.lift, bind, Except.bind]

theorem StateT.ok_of_bind {σ ε α β : Type} {m : StateT σ (Except ε) α}
    {f : α → StateT σ (Except ε) β} {state state'' : σ} {b : β} (ran : (m >>= f) state = .ok (b, state'')) :
    ∃ a state', m state = .ok (a, state') ∧ f a state' = .ok (b, state'') := by
  simp only [bind, StateT.bind, Except.bind] at ran
  cases first : m state with
  | error failure => simp [first] at ran
  | ok result => exact ⟨result.1, result.2, rfl, by simpa [first] using ran⟩

theorem StateT.ok_of_lift_bind {σ ε α β : Type} {e : Except ε α} {f : α → StateT σ (Except ε) β}
    {state state' : σ} {b : β} (ran : (liftM e >>= f) state = .ok (b, state')) :
    ∃ a, e = .ok a ∧ f a state = .ok (b, state') := by
  obtain ⟨a, state'', lifted, rest⟩ := StateT.ok_of_bind ran
  cases e with
  | error failure => cases lifted
  | ok a' =>
    simp only [liftM, monadLift, MonadLift.monadLift, StateT.lift, bind, Except.bind, pure,
      Except.pure, Except.ok.injEq, Prod.mk.injEq] at lifted
    obtain ⟨rfl, rfl⟩ := lifted
    exact ⟨a', rfl, rest⟩

def Module.Admits (module : Module) (name : String) (type : FunctionType) : Prop :=
  ∀ function ∈ module.functions, function.name = name → function.type = type

namespace Module

theorem admits_empty (name : String) (type : FunctionType) :
    Admits ⟨[], List.nodup_nil⟩ name type :=
  fun _ absent => absurd absent (List.not_mem_nil _)

theorem getOrInsertFunction_of_admits {module : Module} {name : String} {type : FunctionType}
    (admits : module.Admits name type) :
    ∃ function, (module.getOrInsertFunction name type).2 = some function ∧
      function.name = name ∧ (module.getOrInsertFunction name type).1.Admits name type := by
  unfold getOrInsertFunction
  split
  · next function found =>
    have named : function.name = name := by simpa using List.find?_some found
    have typed := admits function (List.mem_of_find?_eq_some found) named
    exact ⟨function, by simp [typed], named, admits⟩
  · refine ⟨_, rfl, rfl, fun function member named => ?_⟩
    rcases List.mem_append.mp member with member | member
    · exact admits function member named
    · simp only [List.mem_singleton] at member
      rw [member]

theorem admits_addFnAttr {module : Module} {name : String} {type : FunctionType}
    (target : String) (attr : AttrKind) (admits : module.Admits name type) :
    (module.addFnAttr target attr).Admits name type := by
  intro function member named
  obtain ⟨original, declared, rfl⟩ := List.mem_map.mp member
  by_cases changed : original.name = target ∧ attr ∉ original.attributes
  · rw [if_pos changed] at named ⊢
    exact admits original declared named
  · rw [if_neg changed] at named ⊢
    exact admits original declared named

theorem admits_foldl_addFnAttr {module : Module} {name : String} {type : FunctionType}
    (target : String) (attributes : List AttrKind) (admits : module.Admits name type) :
    (attributes.foldl (fun module attr => module.addFnAttr target attr) module).Admits
      name type := by
  induction attributes generalizing module with
  | nil => exact admits
  | cons attr rest ih => exact ih (admits_addFnAttr target attr admits)

def declareCallee (module : Module) (name : String) (type : FunctionType)
    (attributes : List AttrKind) : Module :=
  attributes.foldl (fun module attr => module.addFnAttr name attr)
    (module.getOrInsertFunction name type).1

def Declares (module : Module) (name : String) : Prop :=
  ∃ function ∈ module.functions, function.name = name

theorem getOrInsertFunction_declares (module : Module) (name : String) (type : FunctionType) :
    (module.getOrInsertFunction name type).1.Declares name := by
  unfold getOrInsertFunction
  split
  · next function found => exact ⟨function, List.mem_of_find?_eq_some found, by
      simpa using List.find?_some found⟩
  · exact ⟨_, List.mem_append_right _ (List.mem_singleton_self _), rfl⟩

theorem getOrInsertFunction_of_declares {module : Module} {name : String} (type : FunctionType)
    (declared : module.Declares name) : (module.getOrInsertFunction name type).1 = module := by
  obtain ⟨function, member, named⟩ := declared
  unfold getOrInsertFunction
  split
  · rfl
  · next missing =>
    exact absurd (List.find?_eq_none.mp missing function member) (by simpa using named)

theorem declares_addFnAttr {module : Module} {name : String} (target : String) (attr : AttrKind)
    (declared : module.Declares name) : (module.addFnAttr target attr).Declares name := by
  obtain ⟨function, member, named⟩ := declared
  refine ⟨_, List.mem_map_of_mem _ member, ?_⟩
  split <;> exact named

def Carries (module : Module) (name : String) (attr : AttrKind) : Prop :=
  ∀ function ∈ module.functions, function.name = name → attr ∈ function.attributes

theorem carries_addFnAttr (module : Module) (name : String) (attr : AttrKind) :
    (module.addFnAttr name attr).Carries name attr := by
  intro function member named
  obtain ⟨original, -, rfl⟩ := List.mem_map.mp member
  by_cases changed : original.name = name ∧ attr ∉ original.attributes
  · rw [if_pos changed]
    exact List.mem_append_right _ (List.mem_singleton_self _)
  · rw [if_neg changed] at named ⊢
    exact not_not.mp fun missing => changed ⟨named, missing⟩

theorem carries_addFnAttr_of_carries {module : Module} {name : String} {attr : AttrKind}
    (target : String) (attr' : AttrKind) (carries : module.Carries name attr) :
    (module.addFnAttr target attr').Carries name attr := by
  intro function member named
  obtain ⟨original, declared, rfl⟩ := List.mem_map.mp member
  by_cases changed : original.name = target ∧ attr' ∉ original.attributes
  · rw [if_pos changed] at named ⊢
    exact List.mem_append_left _ (carries original declared named)
  · rw [if_neg changed] at named ⊢
    exact carries original declared named

theorem addFnAttr_of_carries {module : Module} {name : String} {attr : AttrKind}
    (carries : module.Carries name attr) : module.addFnAttr name attr = module := by
  obtain ⟨functions, unique⟩ := module
  simp only [addFnAttr, mk.injEq]
  conv_rhs => rw [← List.map_id functions]
  refine List.map_congr_left fun function member => ?_
  rw [if_neg fun ⟨named, missing⟩ => missing (carries function member named)]
  rfl

theorem declares_foldl_addFnAttr {module : Module} {name : String} (target : String)
    (attributes : List AttrKind) (declared : module.Declares name) :
    (attributes.foldl (fun module attr => module.addFnAttr target attr) module).Declares name := by
  induction attributes generalizing module with
  | nil => exact declared
  | cons attr rest ih => exact ih (declares_addFnAttr target attr declared)

theorem carries_foldl_addFnAttr_of_carries {module : Module} {name : String} {attr : AttrKind}
    (target : String) (attributes : List AttrKind) (carries : module.Carries name attr) :
    (attributes.foldl (fun module attr => module.addFnAttr target attr) module).Carries
      name attr := by
  induction attributes generalizing module with
  | nil => exact carries
  | cons attr' rest ih => exact ih (carries_addFnAttr_of_carries target attr' carries)

theorem carries_foldl_addFnAttr (module : Module) (name : String) (attributes : List AttrKind) :
    ∀ attr ∈ attributes,
      (attributes.foldl (fun module attr => module.addFnAttr name attr) module).Carries
        name attr := by
  induction attributes generalizing module with
  | nil => simp
  | cons attr rest ih =>
    intro attr' member
    rcases List.mem_cons.mp member with rfl | member
    · exact carries_foldl_addFnAttr_of_carries name rest (carries_addFnAttr module name attr')
    · exact ih _ attr' member

theorem foldl_addFnAttr_of_carries {module : Module} {name : String} {attributes : List AttrKind}
    (carries : ∀ attr ∈ attributes, module.Carries name attr) :
    attributes.foldl (fun module attr => module.addFnAttr name attr) module = module := by
  induction attributes with
  | nil => rfl
  | cons attr rest ih =>
    rw [List.foldl_cons, addFnAttr_of_carries (carries attr (.head _))]
    exact ih fun attr' member => carries attr' (.tail _ member)

theorem declareCallee_declareCallee (module : Module) (name : String) (type : FunctionType)
    (attributes : List AttrKind) :
    (module.declareCallee name type attributes).declareCallee name type attributes =
      module.declareCallee name type attributes := by
  have declared : (module.declareCallee name type attributes).Declares name :=
    declares_foldl_addFnAttr name attributes (module.getOrInsertFunction_declares name type)
  rw [declareCallee, getOrInsertFunction_of_declares type declared]
  exact foldl_addFnAttr_of_carries (carries_foldl_addFnAttr _ name attributes)

theorem admits_declareCallee {module : Module} {name : String} {type : FunctionType}
    (attributes : List AttrKind) (admits : module.Admits name type) :
    (module.declareCallee name type attributes).Admits name type := by
  obtain ⟨-, -, -, inserted⟩ := getOrInsertFunction_of_admits admits
  exact admits_foldl_addFnAttr name attributes inserted

end Module

section DeviceCall

variable {Lane : Type}

def emitDeviceFunctionCall (library : String → DeviceFunction Lane) (calleeName : String)
    (operands : List (Value Lane)) (inputTypes : List PrimitiveType) (outputType : PrimitiveType)
    (attributes : List AttrKind) : EmitM (Value Lane) := do
  let irInputTypes ← (inputTypes.mapM primitiveTypeToIrType : Except Failure (List IrType))
  let calleeType : FunctionType := ⟨← primitiveTypeToIrType outputType, irInputTypes⟩
  let builder ← get
  let inserted := builder.module.getOrInsertFunction calleeName calleeType
  let some callee := inserted.2 | throw .nullDereference
  let module := attributes.foldl (fun module attr => module.addFnAttr callee.name attr) inserted.1
  unless operands.map Value.type = calleeType.params do
    throw (.checkFailed "Calling a function with a bad signature!")
  set { builder with module, calls := builder.calls ++ [calleeName] }
  pure ⟨calleeType.result, library calleeName (operands.map Value.bits)⟩

theorem emitDeviceFunctionCall_ok {library : String → DeviceFunction Lane} {calleeName : String}
    {operands : List (Value Lane)} {inputTypes : List PrimitiveType} {outputType : PrimitiveType}
    {attributes : List AttrKind} {params : List IrType} {result : IrType} {builder : Builder}
    (inputs : inputTypes.mapM primitiveTypeToIrType = .ok params)
    (output : primitiveTypeToIrType outputType = .ok result)
    (signature : operands.map Value.type = params)
    (admits : builder.module.Admits calleeName ⟨result, params⟩) :
    emitDeviceFunctionCall library calleeName operands inputTypes outputType attributes builder =
      .ok (⟨result, library calleeName (operands.map Value.bits)⟩,
        ⟨builder.module.declareCallee calleeName ⟨result, params⟩ attributes,
          builder.calls ++ [calleeName]⟩) := by
  obtain ⟨callee, found, named, -⟩ := Module.getOrInsertFunction_of_admits admits
  simp only [emitDeviceFunctionCall, inputs, output]
  simp [found, named, signature, Module.declareCallee, bind, StateT.bind, get, getThe,
    MonadStateOf.get, StateT.get, set, StateT.set, pure, StateT.pure, Except.bind, Except.pure,
    liftM, monadLift, MonadLift.monadLift, StateT.lift]

inductive TargetIntrinsicID where
  | threadIdX | blockIdX
  deriving DecidableEq, Repr

structure TargetIntrinsics (Lane : Type) where
  name : TargetIntrinsicID → String
  read : TargetIntrinsicID → Lane → Nat

def intrinsicType : FunctionType := ⟨.int 32, []⟩

def emitCallToTargetIntrinsic (target : TargetIntrinsics Lane) (intrinsic : TargetIntrinsicID) :
    EmitM (Value Lane) := do
  let builder ← get
  let inserted := builder.module.getOrInsertFunction (target.name intrinsic) intrinsicType
  let some _ := inserted.2 |
    throw (.checkFailed "isa<X>(Val) && \"cast<Ty>() argument of incompatible type!\"")
  set { builder with module := inserted.1, calls := builder.calls ++ [target.name intrinsic] }
  pure ⟨.int 32, target.read intrinsic⟩

def isBlock0Thread0 (target : TargetIntrinsics Lane) : EmitM (Value Lane) := do
  let thread ← createICmpEQ (getInt32 0) (← emitCallToTargetIntrinsic target .threadIdX)
  let block ← createICmpEQ (getInt32 0) (← emitCallToTargetIntrinsic target .blockIdX)
  createAnd thread block

end DeviceCall

end XlaGpu
