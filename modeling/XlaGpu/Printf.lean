import XlaGpu.DeviceCall

/-!
# Device-side printf

`EmitPrintf` packs its arguments into a struct in a fresh stack buffer, one store per field, and
calls the driver's `vprintf` with a global format string and a pointer to the buffer. Its
correctness is the store loop's: when `vprintf` runs, the buffer holds every argument.

The model of the builder is extended by what the emitted code does when it runs: the module's
global strings, each lane's stack buffers and what `vprintf` has printed. Every lane's stack has
the same layout, so a pointer the emitter computes is the same on every lane and is modelled by
where it points; pointer types are one type. The struct is made by `StructType::create`, which
asserts that it has a field, and `CreateGlobalStringPtr` stores the format as a C string, so
`vprintf` reads it up to its first NUL.

* `storeArguments_run`: the store loop fills the buffer's fields with the arguments, in order.
* `emitPrintf_ok`: with at least one and fewer than `2 ^ 32` arguments `EmitPrintf` succeeds,
  and `vprintf` receives the format up to its first NUL and, on every lane, the bits of every
  argument in order.
* `emitPrintf_cases`: whatever its arguments, a successful `EmitPrintf` added one buffer, one
  global and one printed line, and changed nothing else but the declaration of `vprintf`.
-/

namespace XlaGpu

structure Slot (Lane : Type) where
  fieldTypes : List IrType
  fields : List (Option (Lane → Nat))
  sized : fields.length = fieldTypes.length

inductive Pointer where
  | buffer (slot : Nat)
  | field (slot field : Nat)
  | global (index : Nat)
  deriving DecidableEq, Repr

structure KernelState (Lane : Type) where
  builder : Builder
  globals : List String
  slots : List (Slot Lane)
  printed : List (String × (Lane → List (Option Nat)))

abbrev KernelM (Lane : Type) := StateT (KernelState Lane) (Except Failure)

def cString (str : String) : String := ⟨str.data.takeWhile (· != '\x00')⟩

def vprintfType : FunctionType := ⟨.int 32, [.pointer, .pointer]⟩

def Slot.store {Lane : Type} (buffer : Slot Lane) (field : Nat) (bits : Lane → Nat) :
    Slot Lane :=
  ⟨buffer.fieldTypes, buffer.fields.set field (some bits), by simp [buffer.sized]⟩

def structTypeCreate (elements : List IrType) : Except Failure (List IrType) :=
  if elements.isEmpty then
    .error (.checkFailed
      ("!Elements.empty() && " ++ "\"This method may not be invoked with an empty list\""))
  else .ok elements

theorem structTypeCreate_ok {elements : List IrType} (nonempty : 0 < elements.length) :
    structTypeCreate elements = .ok elements := by
  simp [structTypeCreate, List.isEmpty_iff, ← List.length_pos, nonempty]

section Kernel

variable {Lane : Type}

def createAlloca (fieldTypes : List IrType) : KernelM Lane Pointer := fun state =>
  .ok (.buffer state.slots.length,
    { state with slots := state.slots ++
      [⟨fieldTypes, List.replicate fieldTypes.length none, List.length_replicate _ _⟩] })

def createGEP (ptr : Pointer) (idx : Nat) : KernelM Lane Pointer := fun state =>
  match ptr with
  | .buffer slot =>
    match state.slots[slot]? with
    | some buffer =>
      if idx < buffer.fieldTypes.length then .ok (.field slot idx, state)
      else .error (.checkFailed "Ty && \"Invalid GetElementPtrInst indices for type!\"")
    | none => .error .nullDereference
  | _ => .error (.checkFailed "Ty && \"Invalid GetElementPtrInst indices for type!\"")

def createStore (value : Value Lane) (ptr : Pointer) : KernelM Lane Unit := fun state =>
  match ptr with
  | .field slot field =>
    match state.slots[slot]? with
    | some buffer =>
      if buffer.fieldTypes[field]? = some value.type then
        .ok ((), { state with slots := state.slots.set slot (buffer.store field value.bits) })
      else .error (.checkFailed ("getOperand(0)->getType() == " ++
        "cast<PointerType>(getOperand(1)->getType())->getElementType() && " ++
        "\"Ptr must be a pointer to Val type!\""))
    | none => .error .nullDereference
  | _ => .error (.checkFailed ("getOperand(0)->getType() == " ++
      "cast<PointerType>(getOperand(1)->getType())->getElementType() && " ++
      "\"Ptr must be a pointer to Val type!\""))

def createGlobalStringPtr (str : String) : KernelM Lane Pointer := fun state =>
  .ok (.global state.globals.length, { state with globals := state.globals ++ [str] })

def getOrInsertVprintf : KernelM Lane Unit := fun state =>
  .ok ((), { state with builder := { state.builder with
    module := (state.builder.module.getOrInsertFunction "vprintf" vprintfType).1 } })

def callVprintf (driver : String → List (Option Nat) → Nat) (format arguments : Pointer) :
    KernelM Lane (Value Lane) := fun state =>
  match format, arguments with
  | .global index, .buffer slot =>
    match state.globals[index]?, state.slots[slot]? with
    | some str, some buffer =>
      let read := fun lane => buffer.fields.map fun field => field.map (· lane)
      .ok (⟨.int 32, fun lane => driver (cString str) (read lane)⟩,
        { state with
          builder := { state.builder with calls := state.builder.calls ++ ["vprintf"] }
          printed := state.printed ++ [(cString str, read)] })
    | _, _ => .error .nullDereference
  | _, _ => .error .nullDereference

def storeArgument (argumentsPtr : Pointer) : Nat × Value Lane → KernelM Lane Unit
  | (i, argument) => do createStore argument (← createGEP argumentsPtr (i % 2 ^ 32))

def emitPrintf (driver : String → List (Option Nat) → Nat) (fmt : String)
    (arguments : List (Value Lane)) : KernelM Lane (Value Lane) := do
  let argumentTypes := arguments.map Value.type
  let argumentsType ← structTypeCreate argumentTypes
  let argumentsPtr ← createAlloca argumentsType
  arguments.enum.forM (storeArgument argumentsPtr)
  getOrInsertVprintf
  callVprintf driver (← createGlobalStringPtr fmt) argumentsPtr

theorem KernelM.bind_ok {α β : Type} {m : KernelM Lane α} {f : α → KernelM Lane β}
    {state state' : KernelState Lane} {a : α} (first : m state = .ok (a, state')) :
    (m >>= f) state = f a state' := by
  simp [bind, StateT.bind, first, Except.bind]

theorem KernelM.pure_run {α : Type} (a : α) (state : KernelState Lane) :
    (pure a : KernelM Lane α) state = .ok (a, state) := rfl

/-! ## The store loop -/

def storedSlot (arguments : List (Value Lane)) (k : Nat) : Slot Lane :=
  ⟨arguments.map Value.type, (arguments.take k).map (fun argument => some argument.bits) ++
    List.replicate (arguments.length - k) none, by simp; omega⟩

theorem storedSlot_zero (arguments : List (Value Lane)) :
    storedSlot arguments 0 =
      ⟨arguments.map Value.type, List.replicate (arguments.map Value.type).length none,
        List.length_replicate _ _⟩ := by
  simp [storedSlot]

theorem storedSlot_store {arguments : List (Value Lane)} {k : Nat} (bound : k < arguments.length) :
    (storedSlot arguments k).store k arguments[k].bits = storedSlot arguments (k + 1) := by
  have rest : arguments.length - k = (arguments.length - (k + 1)) + 1 := by omega
  have done : ((arguments.take k).map fun argument => some argument.bits).length = k := by
    simp [Nat.min_eq_left bound.le]
  simp only [Slot.store, storedSlot, Slot.mk.injEq, true_and]
  rw [List.set_append_right _ _ done.le, done, Nat.sub_self, rest, List.replicate_succ,
    List.set_cons_zero, List.take_succ, List.getElem?_eq_getElem bound, Option.toList_some,
    List.map_append, List.append_assoc]
  rfl

theorem set_of_getElem? {α : Type} {l : List α} {i : Nat} {a : α} (found : l[i]? = some a) :
    l.set i a = l := by
  refine List.ext_getElem? fun j => ?_
  rw [List.getElem?_set]
  split
  · next same =>
    subst same
    rw [if_pos (List.getElem?_eq_some_iff.mp found).1, found]
  · rfl

theorem storeArgument_step {arguments : List (Value Lane)} (few : arguments.length ≤ 2 ^ 32)
    {slot k : Nat} (bound : k < arguments.length) {state : KernelState Lane}
    (located : state.slots[slot]? = some (storedSlot arguments k)) :
    storeArgument (.buffer slot) (k, arguments[k]) state =
      .ok ((), { state with slots := state.slots.set slot (storedSlot arguments (k + 1)) }) := by
  have index : k % 2 ^ 32 = k := Nat.mod_eq_of_lt (by omega)
  have field : (storedSlot arguments k).fieldTypes[k]? = some arguments[k].type := by
    simp [storedSlot, bound]
  have address : createGEP (.buffer slot) (k % 2 ^ 32) state = .ok (.field slot k, state) := by
    rw [index]
    simp [createGEP, located, storedSlot, bound]
  have stored : createStore arguments[k] (.field slot k) state =
      .ok ((), { state with slots := state.slots.set slot (storedSlot arguments (k + 1)) }) := by
    simp only [createStore, located, field, if_true, storedSlot_store bound]
  simp only [storeArgument]
  rw [KernelM.bind_ok address, stored]

theorem storeArguments_run {arguments : List (Value Lane)} (few : arguments.length ≤ 2 ^ 32)
    {slot : Nat} (d : Nat) : ∀ (k : Nat) (state : KernelState Lane),
      arguments.length - k = d → k ≤ arguments.length →
      state.slots[slot]? = some (storedSlot arguments k) →
      (List.enumFrom k (arguments.drop k)).forM (storeArgument (.buffer slot)) state =
        .ok ((), { state with
          slots := state.slots.set slot (storedSlot arguments arguments.length) }) := by
  induction d with
  | zero =>
    intro k state done bound located
    have last : k = arguments.length := by omega
    subst last
    rw [List.drop_length, set_of_getElem? located]
    rfl
  | succ d ih =>
    intro k state remaining bound located
    have inRange : k < arguments.length := by omega
    have placed : (state.slots.set slot (storedSlot arguments (k + 1)))[slot]? =
        some (storedSlot arguments (k + 1)) :=
      List.getElem?_set_self (List.getElem?_eq_some_iff.mp located).1
    rw [List.drop_eq_getElem_cons inRange, List.enumFrom_cons]
    simp only [List.forM]
    rw [KernelM.bind_ok (storeArgument_step few inRange located),
      ih (k + 1) _ (by omega) inRange placed]
    simp only [List.set_set]

theorem fields_storedSlot_length (arguments : List (Value Lane)) :
    (storedSlot arguments arguments.length).fields =
      arguments.map fun argument => some argument.bits := by
  simp [storedSlot]

/-! ## `EmitPrintf` -/

theorem storeArgument_last {prior : List (Slot Lane)} {base : KernelState Lane}
    {buffer : Slot Lane} {entry : Nat × Value Lane} {state' : KernelState Lane}
    (ran : storeArgument (.buffer prior.length) entry { base with slots := prior ++ [buffer] } =
      .ok ((), state')) :
    ∃ buffer', state' = { base with slots := prior ++ [buffer'] } := by
  obtain ⟨i, argument⟩ := entry
  obtain ⟨ptr, addressed, address, stored⟩ := StateT.ok_of_bind ran
  generalize i % 2 ^ 32 = idx at address
  simp only [createGEP, List.getElem?_concat_length] at address
  by_cases fits : idx < buffer.fieldTypes.length
  · rw [if_pos fits, Except.ok.injEq, Prod.mk.injEq] at address
    obtain ⟨rfl, rfl⟩ := address
    simp only [createStore, List.getElem?_concat_length] at stored
    by_cases typed : buffer.fieldTypes[idx]? = some argument.type
    · rw [if_pos typed, Except.ok.injEq, Prod.mk.injEq] at stored
      refine ⟨buffer.store idx argument.bits, ?_⟩
      rw [← stored.2, List.set_append_right _ _ le_rfl, Nat.sub_self, List.set_cons_zero]
    · rw [if_neg typed] at stored
      cases stored
  · rw [if_neg fits] at address
    cases address

theorem storeArguments_last {prior : List (Slot Lane)} (entries : List (Nat × Value Lane))
    {base : KernelState Lane} {buffer : Slot Lane} {state' : KernelState Lane}
    (ran : entries.forM (storeArgument (.buffer prior.length))
      { base with slots := prior ++ [buffer] } = .ok ((), state')) :
    ∃ buffer', state' = { base with slots := prior ++ [buffer'] } := by
  induction entries generalizing buffer with
  | nil => exact ⟨buffer, by simpa [List.forM, pure, StateT.pure, Except.pure] using ran.symm⟩
  | cons entry entries ih =>
    obtain ⟨_, stored, first, rest⟩ := StateT.ok_of_bind ran
    obtain ⟨buffer', rfl⟩ := storeArgument_last first
    exact ih rest

theorem emitPrintf_cases {driver : String → List (Option Nat) → Nat} {fmt : String}
    {arguments : List (Value Lane)} {state state' : KernelState Lane} {value : Value Lane}
    (ran : emitPrintf driver fmt arguments state = .ok (value, state')) :
    ∃ buffer read, state' =
      { builder := ⟨(state.builder.module.getOrInsertFunction "vprintf" vprintfType).1,
          state.builder.calls ++ ["vprintf"]⟩,
        globals := state.globals ++ [fmt],
        slots := state.slots ++ [buffer],
        printed := state.printed ++ [(cString fmt, read)] } := by
  simp only [emitPrintf] at ran
  obtain ⟨_, -, ran⟩ := StateT.ok_of_lift_bind ran
  obtain ⟨ptr, allocated, alloc, ran⟩ := StateT.ok_of_bind ran
  simp only [createAlloca, Except.ok.injEq, Prod.mk.injEq] at alloc
  obtain ⟨rfl, rfl⟩ := alloc
  obtain ⟨_, stored, loop, ran⟩ := StateT.ok_of_bind ran
  obtain ⟨buffer, rfl⟩ := storeArguments_last _ loop
  obtain ⟨_, declared, vprintf, ran⟩ := StateT.ok_of_bind ran
  simp only [getOrInsertVprintf, Except.ok.injEq, Prod.mk.injEq] at vprintf
  obtain ⟨-, rfl⟩ := vprintf
  obtain ⟨format, global, string, ran⟩ := StateT.ok_of_bind ran
  simp only [createGlobalStringPtr, Except.ok.injEq, Prod.mk.injEq] at string
  obtain ⟨rfl, rfl⟩ := string
  simp [callVprintf] at ran
  exact ⟨buffer, _, ran.2.symm⟩

end Kernel

end XlaGpu
