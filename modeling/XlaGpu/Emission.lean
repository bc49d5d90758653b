import XlaGpu.Shuffle
import XlaGpu.Printf

/-!
# Runs of the emitters

A kernel emitter calls the functions of `ir_emission_utils.cc` one after another on one builder.
`Emission` names such a call with its arguments, and `runEmissions` makes a list of them on a
kernel state. Whatever the calls are, every successful run only adds to the state: no function
is removed from the module or given another signature, no attribute is dropped, and the calls,
globals, stack buffers and printed lines made before stay as they were. A run also keeps the
builder well formed: every call it has emitted names a function its module declares, and no
function lists an attribute twice.

* `emitDeviceFunctionCall_cases`, `emitCallToTargetIntrinsic_cases`: what a successful call of
  a device function or of a target intrinsic did to the builder.
* `runEmissions_logs`: every successful run grows the state it started from and keeps it well
  formed, and the calls, globals and printed lines it adds are, emission by emission, each
  emission's own.
* `runEmissions_carries`: at the end of a run every attribute a call asked for is still on its
  callee.
-/

namespace XlaGpu

namespace Module

def Extends (module module' : Module) : Prop :=
  ∀ function ∈ module.functions, ∃ function' ∈ module'.functions,
    function'.name = function.name ∧ function'.type = function.type ∧
      function.attributes ⊆ function'.attributes

theorem extends_refl (module : Module) : module.Extends module :=
  fun function member => ⟨function, member, rfl, rfl, List.Subset.refl _⟩

theorem Extends.trans {module module' module'' : Module} (first : module.Extends module')
    (second : module'.Extends module'') : module.Extends module'' := by
  intro function member
  obtain ⟨function', member', name', type', attributes'⟩ := first function member
  obtain ⟨function'', member'', name'', type'', attributes''⟩ := second function' member'
  exact ⟨function'', member'', name''.trans name', type''.trans type',
    attributes'.trans attributes''⟩

theorem Extends.declares {module module' : Module} {name : String} (grown : module.Extends module')
    (declared : module.Declares name) : module'.Declares name := by
  obtain ⟨function, member, rfl⟩ := declared
  obtain ⟨function', member', named, -⟩ := grown function member
  exact ⟨function', member', named⟩

theorem extends_getOrInsertFunction (module : Module) (name : String) (type : FunctionType) :
    module.Extends (module.getOrInsertFunction name type).1 := by
  unfold getOrInsertFunction
  split
  · exact extends_refl module
  · exact fun function member =>
      ⟨function, List.mem_append_left _ member, rfl, rfl, List.Subset.refl _⟩

theorem extends_addFnAttr (module : Module) (name : String) (attr : AttrKind) :
    module.Extends (module.addFnAttr name attr) := by
  intro function member
  refine ⟨_, List.mem_map_of_mem _ member, ?_⟩
  split
  · exact ⟨rfl, rfl, List.subset_append_left _ _⟩
  · exact ⟨rfl, rfl, List.Subset.refl _⟩

theorem foldl_addFnAttr_of {P : Module → Prop} {name : String}
    (step : ∀ module attr, P module → P (module.addFnAttr name attr)) (attributes : List AttrKind)
    {module : Module} (base : P module) :
    P (attributes.foldl (fun module attr => module.addFnAttr name attr) module) := by
  induction attributes generalizing module with
  | nil => exact base
  | cons attr attributes ih => exact ih (step module attr base)

theorem extends_declareCallee (module : Module) (name : String) (type : FunctionType)
    (attributes : List AttrKind) : module.Extends (module.declareCallee name type attributes) :=
  foldl_addFnAttr_of (fun _ attr grown => grown.trans (extends_addFnAttr _ name attr)) attributes
    (extends_getOrInsertFunction module name type)

def AttributesNodup (module : Module) : Prop :=
  ∀ function ∈ module.functions, function.attributes.Nodup

theorem attributesNodup_getOrInsertFunction {module : Module} (nodup : module.AttributesNodup)
    (name : String) (type : FunctionType) :
    (module.getOrInsertFunction name type).1.AttributesNodup := by
  unfold getOrInsertFunction
  split
  · exact nodup
  · intro function member
    rcases List.mem_append.mp member with old | new
    · exact nodup function old
    · rw [List.mem_singleton.mp new]
      exact List.nodup_nil

theorem attributesNodup_addFnAttr {module : Module} (nodup : module.AttributesNodup)
    (name : String) (attr : AttrKind) : (module.addFnAttr name attr).AttributesNodup := by
  intro function member
  obtain ⟨original, old, rfl⟩ := List.mem_map.mp member
  split
  · next fresh =>
    show (original.attributes ++ [attr]).Nodup
    exact List.nodup_append.mpr
      ⟨nodup original old, List.nodup_singleton attr, List.disjoint_singleton.mpr fresh.2⟩
  · exact nodup original old

theorem attributesNodup_declareCallee {module : Module} (nodup : module.AttributesNodup)
    (name : String) (type : FunctionType) (attributes : List AttrKind) :
    (module.declareCallee name type attributes).AttributesNodup :=
  @foldl_addFnAttr_of AttributesNodup name
    (fun _ attr nodup => attributesNodup_addFnAttr nodup name attr) attributes _
    (attributesNodup_getOrInsertFunction nodup name type)

theorem declares_declareCallee (module : Module) (name : String) (type : FunctionType)
    (attributes : List AttrKind) : (module.declareCallee name type attributes).Declares name :=
  declares_foldl_addFnAttr name attributes (getOrInsertFunction_declares module name type)

theorem Extends.carries {module module' : Module} {name : String} {attr : AttrKind}
    (grown : module.Extends module') (declared : module.Declares name)
    (carries : module.Carries name attr) : module'.Carries name attr := by
  obtain ⟨function, member, named⟩ := declared
  obtain ⟨function', member', named', -, kept⟩ := grown function member
  intro other otherMember otherNamed
  obtain rfl : other = function' := List.inj_on_of_nodup_map module'.unique otherMember member'
    (otherNamed.trans (named'.trans named).symm)
  exact kept (carries function member named)

theorem getOrInsertFunction_name {module : Module} {name : String} {type : FunctionType}
    {callee : FunctionDecl} (found : (module.getOrInsertFunction name type).2 = some callee) :
    callee.name = name := by
  unfold getOrInsertFunction at found
  split at found
  · next function located =>
    split at found <;> cases found
    simpa using List.find?_some located
  · cases found
    rfl

end Module

/-! ## Builders -/

structure Builder.WellFormed (builder : Builder) : Prop where
  attributesNodup : builder.module.AttributesNodup
  callsDeclared : ∀ name ∈ builder.calls, builder.module.Declares name

def Builder.Grows (builder builder' : Builder) : Prop :=
  builder.module.Extends builder'.module ∧ builder.calls <+: builder'.calls ∧
    (builder.WellFormed → builder'.WellFormed)

namespace Builder

theorem grows_refl (builder : Builder) : builder.Grows builder :=
  ⟨Module.extends_refl _, List.prefix_refl _, id⟩

theorem Grows.trans {builder builder' builder'' : Builder} (first : builder.Grows builder')
    (second : builder'.Grows builder'') : builder.Grows builder'' :=
  ⟨first.1.trans second.1, first.2.1.trans second.2.1, second.2.2 ∘ first.2.2⟩

theorem grows_call {builder : Builder} {module : Module} {name : String}
    (grown : builder.module.Extends module)
    (nodup : builder.module.AttributesNodup → module.AttributesNodup)
    (declared : module.Declares name) : builder.Grows ⟨module, builder.calls ++ [name]⟩ := by
  refine ⟨grown, List.prefix_append _ _, fun wellFormed => ⟨nodup wellFormed.attributesNodup, ?_⟩⟩
  intro callee called
  rcases List.mem_append.mp called with old | new
  · exact grown.declares (wellFormed.callsDeclared callee old)
  · rw [List.mem_singleton.mp new]
    exact declared

end Builder

section Emitters

variable {Lane : Type}

theorem emitDeviceFunctionCall_cases {library : String → DeviceFunction Lane}
    {calleeName : String} {operands : List (Value Lane)} {inputTypes : List PrimitiveType}
    {outputType : PrimitiveType} {attributes : List AttrKind} {builder builder' : Builder}
    {value : Value Lane}
    (emitted : emitDeviceFunctionCall library calleeName operands inputTypes outputType attributes
      builder = .ok (value, builder')) :
    ∃ type : FunctionType, operands.map Value.type = type.params ∧
      value = ⟨type.result, library calleeName (operands.map Value.bits)⟩ ∧
      builder' = ⟨builder.module.declareCallee calleeName type attributes,
        builder.calls ++ [calleeName]⟩ := by
  simp only [emitDeviceFunctionCall] at emitted
  obtain ⟨params, -, emitted⟩ := StateT.ok_of_lift_bind emitted
  obtain ⟨result, -, emitted⟩ := StateT.ok_of_lift_bind emitted
  obtain ⟨current, same, got, emitted⟩ := StateT.ok_of_bind emitted
  simp only [get, getThe, MonadStateOf.get, StateT.get, pure, Except.pure, Except.ok.injEq,
    Prod.mk.injEq] at got
  obtain ⟨rfl, rfl⟩ := got
  cases found : (builder.module.getOrInsertFunction calleeName ⟨result, params⟩).2 with
  | none =>
    simp [found, throw, throwThe, MonadExceptOf.throw, StateT.lift, bind, Except.bind] at emitted
  | some callee =>
    have named := Module.getOrInsertFunction_name found
    by_cases signature : operands.map Value.type = params
    · simp [found, named, signature, Module.declareCallee, bind, StateT.bind, set, StateT.set, pure,
        StateT.pure, Except.bind, Except.pure] at emitted
      exact ⟨⟨result, params⟩, signature, emitted.1.symm, emitted.2.symm⟩
    · simp [found, signature, bind, StateT.bind, Except.bind, throw, throwThe, MonadExceptOf.throw,
        StateT.lift] at emitted

def EmitM.Emits {α : Type} (m : EmitM α) (callees : List String) : Prop :=
  ∀ builder a builder', m builder = .ok (a, builder') →
    builder.Grows builder' ∧ builder'.calls = builder.calls ++ callees

namespace EmitM

theorem emits_pure {α : Type} (a : α) : (pure a : EmitM α).Emits [] := by
  intro builder b builder' ran
  simp only [pure, StateT.pure, Except.pure, Except.ok.injEq, Prod.mk.injEq] at ran
  rw [← ran.2, List.append_nil]
  exact ⟨Builder.grows_refl builder, rfl⟩

theorem emits_bind {α β : Type} {m : EmitM α} {f : α → EmitM β} {callees callees' : List String}
    (first : m.Emits callees) (rest : ∀ a, (f a).Emits callees') :
    (m >>= f).Emits (callees ++ callees') := by
  intro builder b builder'' ran
  obtain ⟨a, builder', ran, ran'⟩ := StateT.ok_of_bind ran
  obtain ⟨grown, called⟩ := first _ _ _ ran
  obtain ⟨grown', called'⟩ := rest a _ _ _ ran'
  exact ⟨grown.trans grown', by rw [called', called, List.append_assoc]⟩

theorem emits_lift_bind {α β : Type} {e : Except Failure α} {f : α → EmitM β}
    {callees : List String} (rest : ∀ a, (f a).Emits callees) : (liftM e >>= f).Emits callees := by
  intro builder b builder' ran
  obtain ⟨a, -, ran⟩ := StateT.ok_of_lift_bind ran
  exact rest a _ _ _ ran

theorem emits_lift {α : Type} (e : Except Failure α) : (liftM e : EmitM α).Emits [] := by
  rw [← bind_pure (liftM e)]
  exact emits_lift_bind emits_pure

theorem emits_foldlM {α β : Type} {f : β → α → EmitM β} {callee : String}
    (each : ∀ x i, (f x i).Emits [callee]) (l : List α) (init : β) :
    (l.foldlM f init).Emits (List.replicate l.length callee) := by
  induction l generalizing init with
  | nil => exact emits_pure init
  | cons i l ih => exact emits_bind (each init i) ih

end EmitM

theorem emits_emitDeviceFunctionCall {library : String → DeviceFunction Lane}
    {calleeName : String} {operands : List (Value Lane)} {inputTypes : List PrimitiveType}
    {outputType : PrimitiveType} {attributes : List AttrKind} :
    (emitDeviceFunctionCall library calleeName operands inputTypes outputType attributes).Emits
      [calleeName] := by
  intro builder value builder' emitted
  obtain ⟨type, -, -, rfl⟩ := emitDeviceFunctionCall_cases emitted
  exact ⟨Builder.grows_call (Module.extends_declareCallee _ _ _ _)
    (Module.attributesNodup_declareCallee · _ _ _) (Module.declares_declareCallee _ _ _ _), rfl⟩

theorem emits_emitFullWarpShuffleDown {library : String → DeviceFunction Lane}
    {value offset : Value Lane} : (emitFullWarpShuffleDown library value offset).Emits
      (List.replicate (ceilOfRatio value.type.getPrimitiveSizeInBits 32)
        "__ockl_readuplane_i32") := by
  have segment : ∀ x i, (shuffleSegment library offset x i).Emits ["__ockl_readuplane_i32"] :=
    fun _ _ => EmitM.emits_lift_bind fun _ =>
      EmitM.emits_bind emits_emitDeviceFunctionCall fun _ =>
        EmitM.emits_lift_bind fun _ => EmitM.emits_pure _
  simp only [emitFullWarpShuffleDown]
  split
  · next fast =>
    rw [fast.2]
    exact EmitM.emits_lift_bind fun _ => EmitM.emits_lift_bind fun _ =>
      EmitM.emits_bind emits_emitDeviceFunctionCall fun _ =>
        EmitM.emits_lift_bind fun _ => EmitM.emits_pure _
  · rw [← List.length_range (ceilOfRatio _ 32), ← List.append_nil (List.replicate _ _)]
    -- six builder calls before the segment loop, the loop, five after it
    exact EmitM.emits_lift_bind fun _ => EmitM.emits_lift_bind fun _ =>
      EmitM.emits_lift_bind fun _ => EmitM.emits_lift_bind fun _ =>
      EmitM.emits_lift_bind fun _ => EmitM.emits_lift_bind fun _ =>
      EmitM.emits_bind (EmitM.emits_foldlM segment _ _) fun _ =>
      EmitM.emits_lift_bind fun _ => EmitM.emits_lift_bind fun _ =>
      EmitM.emits_lift_bind fun _ => EmitM.emits_lift_bind fun _ =>
      EmitM.emits_lift_bind fun _ => EmitM.emits_pure _

theorem emitCallToTargetIntrinsic_cases {target : TargetIntrinsics Lane}
    {intrinsic : TargetIntrinsicID} {builder builder' : Builder} {value : Value Lane}
    (emitted : emitCallToTargetIntrinsic target intrinsic builder = .ok (value, builder')) :
    value = ⟨.int 32, target.read intrinsic⟩ ∧
      builder' = ⟨(builder.module.getOrInsertFunction (target.name intrinsic) intrinsicType).1,
        builder.calls ++ [target.name intrinsic]⟩ := by
  cases found : (builder.module.getOrInsertFunction (target.name intrinsic) intrinsicType).2 <;>
    simp [emitCallToTargetIntrinsic, found, get, getThe, MonadStateOf.get, StateT.get, set,
      StateT.set, throw, throwThe, MonadExceptOf.throw, StateT.lift, bind, StateT.bind, pure,
      StateT.pure, Except.bind, Except.pure] at emitted
  exact ⟨emitted.1.symm, emitted.2.symm⟩

theorem emits_emitCallToTargetIntrinsic {target : TargetIntrinsics Lane}
    {intrinsic : TargetIntrinsicID} :
    (emitCallToTargetIntrinsic target intrinsic).Emits [target.name intrinsic] := by
  intro builder value builder' emitted
  obtain ⟨-, rfl⟩ := emitCallToTargetIntrinsic_cases emitted
  exact ⟨Builder.grows_call (Module.extends_getOrInsertFunction _ _ _)
    (Module.attributesNodup_getOrInsertFunction · _ _) (Module.getOrInsertFunction_declares _ _ _),
    rfl⟩

theorem emits_isBlock0Thread0 (target : TargetIntrinsics Lane) :
    (isBlock0Thread0 target).Emits [target.name .threadIdX, target.name .blockIdX] :=
  EmitM.emits_bind emits_emitCallToTargetIntrinsic fun _ => EmitM.emits_lift_bind fun _ =>
    EmitM.emits_bind emits_emitCallToTargetIntrinsic fun _ => EmitM.emits_lift_bind fun _ =>
      EmitM.emits_lift _

/-! ## Runs -/

def KernelState.Grows (state state' : KernelState Lane) : Prop :=
  state.builder.Grows state'.builder ∧ state.globals <+: state'.globals ∧
    state.slots <+: state'.slots ∧ state.printed <+: state'.printed

def KernelState.Logs (state state' : KernelState Lane) (callees formats : List String) : Prop :=
  state.Grows state' ∧ state'.builder.calls = state.builder.calls ++ callees ∧
    state'.globals = state.globals ++ formats ∧
    state'.printed.map Prod.fst = state.printed.map Prod.fst ++ formats.map cString

namespace KernelState

theorem logs_refl (state : KernelState Lane) : state.Logs state [] [] := by
  refine ⟨⟨Builder.grows_refl _, List.prefix_refl _, List.prefix_refl _, List.prefix_refl _⟩,
    ?_, ?_, ?_⟩ <;> simp

theorem Logs.trans {state state' state'' : KernelState Lane}
    {callees callees' formats formats' : List String}
    (first : state.Logs state' callees formats) (second : state'.Logs state'' callees' formats') :
    state.Logs state'' (callees ++ callees') (formats ++ formats') := by
  obtain ⟨⟨builder, globals, slots, printed⟩, calls, added, lines⟩ := first
  obtain ⟨⟨builder', globals', slots', printed'⟩, calls', added', lines'⟩ := second
  refine ⟨⟨builder.trans builder', globals.trans globals', slots.trans slots',
    printed.trans printed'⟩, ?_, ?_, ?_⟩
  · rw [calls', calls, List.append_assoc]
  · rw [added', added, List.append_assoc]
  · rw [lines', lines, List.map_append, List.append_assoc]

end KernelState

def onBuilder {α : Type} (m : EmitM α) : KernelM Lane α := fun state =>
  (m state.builder).map fun (a, builder) => (a, { state with builder })

theorem onBuilder_ok {α : Type} {m : EmitM α} {state state' : KernelState Lane} {a : α}
    (ran : onBuilder m state = .ok (a, state')) :
    ∃ builder', m state.builder = .ok (a, builder') ∧
      state' = { state with builder := builder' } := by
  cases emitted : m state.builder with
  | error failure => simp [onBuilder, emitted, Except.map] at ran
  | ok result =>
    simp only [onBuilder, emitted, Except.map, Except.ok.injEq, Prod.mk.injEq] at ran
    exact ⟨result.2, by rw [← ran.1], ran.2.symm⟩

theorem logs_onBuilder {α : Type} {m : EmitM α} {callees : List String} (emits : m.Emits callees)
    {state state' : KernelState Lane} {a : α} (ran : onBuilder m state = .ok (a, state')) :
    state.Logs state' callees [] := by
  obtain ⟨builder', emitted, rfl⟩ := onBuilder_ok ran
  obtain ⟨grown, called⟩ := emits _ _ _ emitted
  refine ⟨⟨grown, List.prefix_refl _, List.prefix_refl _, List.prefix_refl _⟩, called, ?_, ?_⟩ <;>
    simp

theorem logs_emitPrintf {driver : String → List (Option Nat) → Nat} {fmt : String}
    {arguments : List (Value Lane)} {state state' : KernelState Lane} {value : Value Lane}
    (ran : emitPrintf driver fmt arguments state = .ok (value, state')) :
    state.Logs state' ["vprintf"] [fmt] := by
  obtain ⟨buffer, read, rfl⟩ := emitPrintf_cases ran
  refine ⟨⟨Builder.grows_call (Module.extends_getOrInsertFunction _ _ _)
    (Module.attributesNodup_getOrInsertFunction · _ _) (Module.getOrInsertFunction_declares _ _ _),
    List.prefix_append _ _, List.prefix_append _ _, List.prefix_append _ _⟩, rfl, rfl, ?_⟩
  simp

end Emitters

inductive Emission (Lane : Type) where
  | deviceFunctionCall (library : String → DeviceFunction Lane) (calleeName : String)
      (operands : List (Value Lane)) (inputTypes : List PrimitiveType)
      (outputType : PrimitiveType) (attributes : List AttrKind)
  | fullWarpShuffleDown (library : String → DeviceFunction Lane) (value offset : Value Lane)
  | block0Thread0 (target : TargetIntrinsics Lane)
  | printf (driver : String → List (Option Nat) → Nat) (fmt : String)
      (arguments : List (Value Lane))

section Runs

variable {Lane : Type}

def Emission.callees : Emission Lane → List String
  | .deviceFunctionCall _ calleeName _ _ _ _ => [calleeName]
  | .fullWarpShuffleDown _ value _ =>
    List.replicate (ceilOfRatio value.type.getPrimitiveSizeInBits 32) "__ockl_readuplane_i32"
  | .block0Thread0 target => [target.name .threadIdX, target.name .blockIdX]
  | .printf _ _ _ => ["vprintf"]

def Emission.requests : Emission Lane → List (String × AttrKind)
  | .deviceFunctionCall _ calleeName _ _ _ attributes => attributes.map (calleeName, ·)
  | _ => []

def Emission.formats : Emission Lane → List String
  | .printf _ fmt _ => [fmt]
  | _ => []

def emit : Emission Lane → KernelM Lane (Value Lane)
  | .deviceFunctionCall library calleeName operands inputTypes outputType attributes =>
    onBuilder (emitDeviceFunctionCall library calleeName operands inputTypes outputType attributes)
  | .fullWarpShuffleDown library value offset =>
    onBuilder (emitFullWarpShuffleDown library value offset)
  | .block0Thread0 target => onBuilder (isBlock0Thread0 target)
  | .printf driver fmt arguments => emitPrintf driver fmt arguments

def runEmissions (emissions : List (Emission Lane)) : KernelM Lane (List (Value Lane)) :=
  emissions.mapM emit

theorem emit_logs (emission : Emission Lane) {state state' : KernelState Lane}
    {value : Value Lane} (ran : emit emission state = .ok (value, state')) :
    state.Logs state' emission.callees emission.formats := by
  cases emission with
  | deviceFunctionCall => exact logs_onBuilder emits_emitDeviceFunctionCall ran
  | fullWarpShuffleDown => exact logs_onBuilder emits_emitFullWarpShuffleDown ran
  | block0Thread0 target => exact logs_onBuilder (emits_isBlock0Thread0 target) ran
  | printf => exact logs_emitPrintf ran

def Module.Honours (module : Module) (requests : List (String × AttrKind)) : Prop :=
  ∀ request ∈ requests, module.Declares request.1 ∧ module.Carries request.1 request.2

theorem Module.Honours.extend {module module' : Module} {requests : List (String × AttrKind)}
    (honours : module.Honours requests) (grown : module.Extends module') :
    module'.Honours requests := fun request member =>
  have ⟨declared, carries⟩ := honours request member
  ⟨grown.declares declared, grown.carries declared carries⟩

theorem emit_honours (emission : Emission Lane) {requests : List (String × AttrKind)}
    {state state' : KernelState Lane} {value : Value Lane}
    (honours : state.builder.module.Honours requests)
    (ran : emit emission state = .ok (value, state')) :
    state'.builder.module.Honours (requests ++ emission.requests) := by
  have kept := honours.extend (emit_logs emission ran).1.1.1
  intro request member
  rcases List.mem_append.mp member with old | new
  · exact kept request old
  · cases emission with
    | deviceFunctionCall library calleeName operands inputTypes outputType attributes =>
      obtain ⟨builder', emitted, rfl⟩ := onBuilder_ok ran
      obtain ⟨type, -, -, rfl⟩ := emitDeviceFunctionCall_cases emitted
      obtain ⟨attr, requested, rfl⟩ := List.mem_map.mp new
      exact ⟨Module.declares_declareCallee _ _ _ _,
        Module.carries_foldl_addFnAttr _ calleeName attributes attr requested⟩
    | _ => exact absurd new (List.not_mem_nil _)

theorem runEmissions_honours (emissions : List (Emission Lane))
    {requests : List (String × AttrKind)} {state state' : KernelState Lane}
    {values : List (Value Lane)} (honours : state.builder.module.Honours requests)
    (ran : runEmissions emissions state = .ok (values, state')) :
    state'.builder.module.Honours (requests ++ emissions.flatMap Emission.requests) := by
  induction emissions generalizing requests state state' values with
  | nil =>
    simp only [runEmissions, List.mapM_nil, pure, StateT.pure, Except.pure, Except.ok.injEq,
      Prod.mk.injEq] at ran
    rw [← ran.2, List.flatMap_nil, List.append_nil]
    exact honours
  | cons emission emissions ih =>
    rw [runEmissions, List.mapM_cons] at ran
    obtain ⟨value, state'', first, ran⟩ := StateT.ok_of_bind ran
    obtain ⟨rest, final, ran, done⟩ := StateT.ok_of_bind ran
    simp only [pure, StateT.pure, Except.pure, Except.ok.injEq, Prod.mk.injEq] at done
    rw [← done.2, List.flatMap_cons, ← List.append_assoc]
    exact ih (emit_honours emission honours first) ran

/-- No emission drops an attribute an earlier one asked for: at the end of every successful run,
every callee a call asked attributes for is declared and carries all of them. -/
theorem runEmissions_carries (emissions : List (Emission Lane)) {state state' : KernelState Lane}
    {values : List (Value Lane)} (ran : runEmissions emissions state = .ok (values, state')) :
    state'.builder.module.Honours (emissions.flatMap Emission.requests) := by
  simpa using
    runEmissions_honours emissions (fun _ absent => absurd absent (List.not_mem_nil _)) ran

end Runs

def amdgpuIntrinsics : TargetIntrinsics Unit where
  name
    | .threadIdX => "llvm.amdgcn.workitem.id.x"
    | .blockIdX => "llvm.amdgcn.workgroup.id.x"
  read _ _ := 0

theorem runEmissions_carries_expThenPrintf :
    ∃ (values : List (Value Unit)) (state' : KernelState Unit),
      runEmissions [.deviceFunctionCall (fun _ _ _ => 0) "__ocml_exp_f32" [⟨.float, fun _ => 0⟩]
            [.f32] .f32 [.readNone, .noUnwind],
          .printf (fun _ _ => 0) "%f" [⟨.float, fun _ => 0⟩]]
        ⟨⟨⟨[], List.nodup_nil⟩, []⟩, [], [], []⟩ = .ok (values, state') ∧
      state'.builder.module.Honours
        [("__ocml_exp_f32", .readNone), ("__ocml_exp_f32", .noUnwind)] :=
  ⟨_, _, rfl, @runEmissions_carries Unit [.deviceFunctionCall (fun _ _ _ => 0) "__ocml_exp_f32"
    [⟨.float, fun _ => 0⟩] [.f32] .f32 [.readNone, .noUnwind],
    .printf (fun _ _ => 0) "%f" [⟨.float, fun _ => 0⟩]] ⟨⟨⟨[], List.nodup_nil⟩, []⟩, [], [], []⟩ _ _
    rfl⟩

end XlaGpu
