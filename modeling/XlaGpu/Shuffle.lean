import XlaGpu.DeviceCall

/-!
# Full-warp shuffle down

`EmitFullWarpShuffleDown` moves a value of any width across the lanes of a wavefront with
`__ockl_readuplane_i32`, which moves 32 bits. A 32-bit float is bit-cast to an integer and read
once; any other value is zero-extended to whole 32-bit segments, each segment is read in turn,
and the segments are reassembled, truncated and bit-cast back.

The read is modelled by what it does: `ReadsUpLane library offset σ` says that each lane
receives the operand held by lane `σ lane`. `CeilOfRatio` comes from `util.h`, which is not in
the repository; it is the rounded-up quotient. The widened integer type is made by
`getIntNTy`, so the segmented path needs `32 * CeilOfRatio(W, 32)` to stay within LLVM's
`MAX_INT_BITS`.

* `shuffleSegments_run`: after `k` turns of the segment loop, the segments below `k` are those
  of the source lane and the others still the lane's own.
* `emitSegmentedShuffleDown_exchanges`: the segmented path hands every lane the whole bit
  pattern of its source lane, declares the read once and calls it once per segment.
* `emitFullWarpShuffleDown_exchanges`: so does the emitter on either path, and the two paths
  agree on 32-bit floats.
* `emitFullWarpShuffleDown_aborts`: without the bound on the widened width, or in a module that
  already declares the read with another signature, the emitter fails.
* `emitFullWarpShuffleDown_ok`: on either path the emitter reads once per 32-bit segment.
-/

namespace XlaGpu

def ceilOfRatio (dividend divisor : Nat) : Nat :=
  dividend / divisor + if dividend % divisor = 0 then 0 else 1

theorem le_mul_ceilOfRatio (bitWidth : Nat) : bitWidth ≤ 32 * ceilOfRatio bitWidth 32 := by
  unfold ceilOfRatio
  split <;> omega

theorem ceilOfRatio_pos {bitWidth : Nat} (pos : 0 < bitWidth) : 0 < ceilOfRatio bitWidth 32 := by
  unfold ceilOfRatio
  split <;> omega

def readUpLaneType : FunctionType := ⟨.int 32, [.int 32, .int 32]⟩

section Shuffle

variable {Lane : Type}

def emitFloatShuffleDown (library : String → DeviceFunction Lane) (value offset : Value Lane) :
    EmitM (Value Lane) := do
  let bitWidth := value.type.getPrimitiveSizeInBits
  let valueAsInt ← createBitCast value (← getIntNTy bitWidth)
  let result ← emitDeviceFunctionCall library "__ockl_readuplane_i32" [valueAsInt, offset]
    [.s32, .s32] .s32 []
  let resultAsFloat ← createBitCast result value.type
  pure resultAsFloat

def shuffleSegment (library : String → DeviceFunction Lane) (offset x : Value Lane) (i : Nat) :
    EmitM (Value Lane) := do
  let element ← createExtractElement x i
  let shuffled ← emitDeviceFunctionCall library "__ockl_readuplane_i32" [element, offset]
    [.s32, .s32] .s32 []
  let x ← createInsertElement x shuffled i
  pure x

def emitSegmentedShuffleDown (library : String → DeviceFunction Lane) (value offset : Value Lane) :
    EmitM (Value Lane) := do
  let bitWidth := value.type.getPrimitiveSizeInBits
  let numSegments := ceilOfRatio bitWidth 32
  let x ← createBitCast (← createZExt (← createBitCast value (← getIntNTy bitWidth))
    (← getIntNTy (32 * numSegments))) (← vectorTypeGet (.int 32) numSegments)
  let x ← (List.range numSegments).foldlM (shuffleSegment library offset) x
  let result ← createBitCast (← createTrunc (← createBitCast x (← getIntNTy (32 * numSegments)))
    (← getIntNTy bitWidth)) value.type
  pure result

def emitFullWarpShuffleDown (library : String → DeviceFunction Lane) (value offset : Value Lane) :
    EmitM (Value Lane) :=
  let bitWidth := value.type.getPrimitiveSizeInBits
  if value.type.isFloatTy ∧ bitWidth = 32 then emitFloatShuffleDown library value offset
  else emitSegmentedShuffleDown library value offset

def Exchanged (σ : Lane → Lane) (count k : Nat) (bits : Lane → Nat) (x : Value Lane) : Prop :=
  x.type = .vector count (.int 32) ∧ ∀ lane, x.bits lane =
    ofSegments 32 ((toSegments 32 count (bits (σ lane))).take k ++
      (toSegments 32 count (bits lane)).drop k)

theorem exchanged_elements {σ : Lane → Lane} {count k : Nat} {bits : Lane → Nat} {x : Value Lane}
    (exchanged : Exchanged σ count k bits x) (lane : Lane) :
    toSegments 32 count (x.bits lane) = (toSegments 32 count (bits (σ lane))).take k ++
      (toSegments 32 count (bits lane)).drop k := by
  set segments := (toSegments 32 count (bits (σ lane))).take k ++
    (toSegments 32 count (bits lane)).drop k
  have length : segments.length = count := by
    simp only [segments, List.length_append, List.length_take, List.length_drop,
      length_toSegments]
    omega
  have fit : ∀ segment ∈ segments, segment < 2 ^ 32 := fun segment member => by
    rcases List.mem_append.mp member with member | member
    · exact toSegments_lt (List.mem_of_mem_take member)
    · exact toSegments_lt (List.mem_of_mem_drop member)
  have roundTrip := toSegments_ofSegments fit
  rw [length] at roundTrip
  rw [exchanged.2 lane]
  exact roundTrip

def ReadsUpLane (library : String → DeviceFunction Lane) (offset : Value Lane)
    (σ : Lane → Lane) : Prop :=
  offset.type = .int 32 ∧
    ∀ operand, library "__ockl_readuplane_i32" [operand, offset.bits] = fun lane => operand (σ lane)

theorem shuffleSegment_step {library : String → DeviceFunction Lane} {offset : Value Lane}
    {σ : Lane → Lane} (reads : ReadsUpLane library offset σ) {count k : Nat} {bits : Lane → Nat}
    {x : Value Lane} {builder : Builder} (exchanged : Exchanged σ count k bits x)
    (bound : k < count) (admits : builder.module.Admits "__ockl_readuplane_i32" readUpLaneType) :
    ∃ x', shuffleSegment library offset x k builder =
        .ok (x', ⟨builder.module.declareCallee "__ockl_readuplane_i32" readUpLaneType [],
          builder.calls ++ ["__ockl_readuplane_i32"]⟩) ∧ Exchanged σ count (k + 1) bits x' := by
  let element : Value Lane := ⟨.int 32, fun lane => (toSegments 32 count (x.bits lane)).getD k 0⟩
  let shuffled : Value Lane :=
    ⟨.int 32, library "__ockl_readuplane_i32" ([element, offset].map Value.bits)⟩
  have extract : createExtractElement x k = .ok element := createExtractElement_vector exchanged.1
  have call := @emitDeviceFunctionCall_ok Lane library
    "__ockl_readuplane_i32" [element, offset] [.s32, .s32] .s32 [] [.int 32, .int 32] (.int 32)
    builder rfl rfl (by simp [element, reads.1]) admits
  let inserted : Value Lane := ⟨.vector count (.int 32), fun lane =>
    ofSegments 32 ((toSegments 32 count (x.bits lane)).set k (shuffled.bits lane))⟩
  have insert : createInsertElement x shuffled k = .ok inserted :=
    createInsertElement_vector exchanged.1 rfl
  refine ⟨inserted, ?_, rfl, fun lane => ?_⟩
  · simp only [shuffleSegment]
    rw [EmitM.bind_ok (EmitM.lift_ok extract builder), EmitM.bind_ok call,
      EmitM.bind_ok (EmitM.lift_ok insert _), EmitM.pure_run]
    rfl
  · have inRange : k < (toSegments 32 count (bits (σ lane))).length := by simpa using bound
    have segment : shuffled.bits lane = (toSegments 32 count (bits (σ lane)))[k] := by
      simp only [shuffled, element, List.map, reads.2, exchanged_elements exchanged,
        List.getD_eq_getElem?_getD]
      rw [List.getElem?_append_right (by simp)]
      simp only [List.length_take, length_toSegments, Nat.min_eq_left bound.le, Nat.sub_self,
        List.getElem?_drop, Nat.add_zero]
      rw [List.getElem?_eq_getElem inRange, Option.getD_some]
    show ofSegments 32 ((toSegments 32 count (x.bits lane)).set k (shuffled.bits lane)) = _
    rw [exchanged_elements exchanged, segment, set_take_append_drop (by simp) inRange]

theorem shuffleSegments_run {library : String → DeviceFunction Lane} {offset : Value Lane}
    {σ : Lane → Lane} (reads : ReadsUpLane library offset σ) {count : Nat} {bits : Lane → Nat}
    {x : Value Lane} (start : Exchanged σ count 0 bits x) {k : Nat} (bound : k ≤ count)
    {builder : Builder} (admits : builder.module.Admits "__ockl_readuplane_i32" readUpLaneType) :
    ∃ x', (List.range k).foldlM (shuffleSegment library offset) x builder =
        .ok (x', ⟨if k = 0 then builder.module
            else builder.module.declareCallee "__ockl_readuplane_i32" readUpLaneType [],
          builder.calls ++ List.replicate k "__ockl_readuplane_i32"⟩) ∧
      Exchanged σ count k bits x' := by
  induction k with
  | zero => exact ⟨x, by simp [EmitM.pure_run], start⟩
  | succ k ih =>
    obtain ⟨x', run, exchanged⟩ := ih (by omega)
    set module := if k = 0 then builder.module
      else builder.module.declareCallee "__ockl_readuplane_i32" readUpLaneType []
    obtain ⟨admits', declared⟩ : module.Admits "__ockl_readuplane_i32" readUpLaneType ∧
        module.declareCallee "__ockl_readuplane_i32" readUpLaneType [] =
          builder.module.declareCallee "__ockl_readuplane_i32" readUpLaneType [] := by
      by_cases first : k = 0
      · simpa only [module, first, ↓reduceIte, and_true] using admits
      · simp only [module, first, ↓reduceIte]
        exact ⟨Module.admits_declareCallee [] admits, Module.declareCallee_declareCallee _ _ _ _⟩
    obtain ⟨x'', step, exchanged'⟩ := @shuffleSegment_step Lane library offset σ reads count k bits
      x' ⟨module, builder.calls ++ List.replicate k "__ockl_readuplane_i32"⟩ exchanged (by omega)
      admits'
    refine ⟨x'', ?_, exchanged'⟩
    rw [List.range_succ, List.foldlM_append, EmitM.bind_ok run, List.foldlM_cons,
      EmitM.bind_ok step, List.foldlM_nil, EmitM.pure_run, declared, List.replicate_succ',
      List.append_assoc]
    simp

theorem castIsValid_zExt_int {width width' : Nat} (wider : width < width') :
    castIsValid .zExt (.int width) (.int width') = true := by
  simp [castIsValid, IrType.isAggregateType, IrType.isIntegerTy, IrType.getPrimitiveSizeInBits,
    wider]

theorem castIsValid_trunc_int {width width' : Nat} (narrower : width' < width) :
    castIsValid .trunc (.int width) (.int width') = true := by
  simp [castIsValid, IrType.isAggregateType, IrType.isIntegerTy, IrType.getPrimitiveSizeInBits,
    narrower]

theorem castIsValid_bitCast_segments (count : Nat) :
    castIsValid .bitCast (.int (32 * count)) (.vector count (.int 32)) = true := by
  simp [castIsValid, IrType.isAggregateType, IrType.getScalarType, IrType.isPointerTy,
    IrType.getPrimitiveSizeInBits, Nat.mul_comm]

theorem emitSegmentedShuffleDown_exchanges {library : String → DeviceFunction Lane}
    {offset : Value Lane} {σ : Lane → Lane} (reads : ReadsUpLane library offset σ)
    {value : Value Lane} (wide : 0 < value.type.getPrimitiveSizeInBits)
    (castable : castIsValid .bitCast value.type (.int value.type.getPrimitiveSizeInBits) = true)
    (fits : ∀ lane, value.bits lane < 2 ^ value.type.getPrimitiveSizeInBits)
    (bounded : 32 * ceilOfRatio value.type.getPrimitiveSizeInBits 32 ≤ maxIntBits)
    {builder : Builder} (admits : builder.module.Admits "__ockl_readuplane_i32" readUpLaneType) :
    emitSegmentedShuffleDown library value offset builder =
      .ok (⟨value.type, fun lane => value.bits (σ lane)⟩,
        ⟨builder.module.declareCallee "__ockl_readuplane_i32" readUpLaneType [],
          builder.calls ++ List.replicate (ceilOfRatio value.type.getPrimitiveSizeInBits 32)
            "__ockl_readuplane_i32"⟩) := by
  set width := value.type.getPrimitiveSizeInBits
  set count := ceilOfRatio width 32
  have cover : width ≤ 32 * count := le_mul_ceilOfRatio width
  have segments : 0 < count := ceilOfRatio_pos wide
  have narrowTy : getIntNTy width = .ok (.int width) := getIntNTy_ok wide (cover.trans bounded)
  have wideTy : getIntNTy (32 * count) = .ok (.int (32 * count)) :=
    getIntNTy_ok (by omega) bounded
  have vectorTy : vectorTypeGet (.int 32) count = .ok (.vector count (.int 32)) :=
    vectorTypeGet_pos segments
  have fitsWide : ∀ lane, value.bits lane < 2 ^ (32 * count) := fun lane =>
    Nat.lt_of_lt_of_le (fits lane) (Nat.pow_le_pow_right (by decide) cover)
  have asInt : createBitCast value (.int width) = .ok ⟨.int width, value.bits⟩ :=
    createCast_ok (.inr castable) fun _ => rfl
  have widened : createZExt ⟨.int width, value.bits⟩ (.int (32 * count)) =
      .ok ⟨.int (32 * count), value.bits⟩ := by
    refine createCast_ok ?_ fun _ => rfl
    rcases Nat.lt_or_eq_of_le cover with wider | same
    · exact .inr (castIsValid_zExt_int wider)
    · exact .inl (by rw [same])
  have split : createBitCast ⟨.int (32 * count), value.bits⟩ (.vector count (.int 32)) =
      .ok ⟨.vector count (.int 32), value.bits⟩ :=
    createCast_ok (.inr (castIsValid_bitCast_segments count)) fun _ => rfl
  have start : Exchanged σ count 0 value.bits ⟨.vector count (.int 32), value.bits⟩ :=
    ⟨rfl, fun lane => by simp [ofSegments_toSegments, Nat.mod_eq_of_lt (fitsWide lane)]⟩
  obtain ⟨x, loop, exchanged⟩ := shuffleSegments_run reads start le_rfl admits
  rw [if_neg (Nat.pos_iff_ne_zero.mp segments)] at loop
  have shuffled : x = ⟨.vector count (.int 32), fun lane => value.bits (σ lane)⟩ := by
    obtain ⟨typed, bits⟩ := exchanged
    rcases x with ⟨type, xBits⟩
    dsimp only at typed bits
    subst typed
    congr
    funext lane
    rw [bits lane, List.take_of_length_le (by simp), List.drop_of_length_le (by simp),
      List.append_nil, ofSegments_toSegments, Nat.mod_eq_of_lt (fitsWide (σ lane))]
  have joined : createBitCast x (.int (32 * count)) =
      .ok ⟨.int (32 * count), fun lane => value.bits (σ lane)⟩ := by
    rw [shuffled]
    refine createCast_ok (.inr ?_) fun _ => rfl
    rw [castIsValid_bitCast_comm]
    exact castIsValid_bitCast_segments count
  have truncated : createTrunc ⟨.int (32 * count), fun lane => value.bits (σ lane)⟩ (.int width) =
      .ok ⟨.int width, fun lane => value.bits (σ lane)⟩ := by
    refine createCast_ok ?_ fun lane => Nat.mod_eq_of_lt (fits (σ lane))
    rcases Nat.lt_or_eq_of_le cover with wider | same
    · exact .inr (castIsValid_trunc_int wider)
    · exact .inl (by rw [same])
  have restored : createBitCast ⟨.int width, fun lane => value.bits (σ lane)⟩ value.type =
      .ok ⟨value.type, fun lane => value.bits (σ lane)⟩ :=
    createCast_ok (.inr (by rw [castIsValid_bitCast_comm]; exact castable)) fun _ => rfl
  simp only [emitSegmentedShuffleDown]
  rw [EmitM.bind_ok (EmitM.lift_ok narrowTy _), EmitM.bind_ok (EmitM.lift_ok asInt _),
    EmitM.bind_ok (EmitM.lift_ok wideTy _), EmitM.bind_ok (EmitM.lift_ok widened _),
    EmitM.bind_ok (EmitM.lift_ok vectorTy _), EmitM.bind_ok (EmitM.lift_ok split _),
    EmitM.bind_ok loop, EmitM.bind_ok (EmitM.lift_ok wideTy _),
    EmitM.bind_ok (EmitM.lift_ok joined _), EmitM.bind_ok (EmitM.lift_ok narrowTy _),
    EmitM.bind_ok (EmitM.lift_ok truncated _), EmitM.bind_ok (EmitM.lift_ok restored _),
    EmitM.pure_run]

theorem emitFloatShuffleDown_exchanges {library : String → DeviceFunction Lane}
    {offset : Value Lane} {σ : Lane → Lane} (reads : ReadsUpLane library offset σ)
    {value : Value Lane} (float : value.type = .float) {builder : Builder}
    (admits : builder.module.Admits "__ockl_readuplane_i32" readUpLaneType) :
    emitFloatShuffleDown library value offset builder =
      .ok (⟨value.type, fun lane => value.bits (σ lane)⟩,
        ⟨builder.module.declareCallee "__ockl_readuplane_i32" readUpLaneType [],
          builder.calls ++ ["__ockl_readuplane_i32"]⟩) := by
  have intTy : getIntNTy value.type.getPrimitiveSizeInBits = .ok (.int 32) := by
    rw [float]
    rfl
  have asInt : createBitCast value (.int 32) = .ok ⟨.int 32, value.bits⟩ :=
    createCast_ok (.inr (by rw [float]; rfl)) fun _ => rfl
  have call := @emitDeviceFunctionCall_ok Lane library "__ockl_readuplane_i32"
    [⟨.int 32, value.bits⟩, offset] [.s32, .s32] .s32 [] [.int 32, .int 32] (.int 32) builder rfl
    rfl (by simp [reads.1]) admits
  simp only [List.map, reads.2] at call
  have restored : createBitCast ⟨.int 32, fun lane => value.bits (σ lane)⟩ value.type =
      .ok ⟨value.type, fun lane => value.bits (σ lane)⟩ :=
    createCast_ok (.inr (by rw [float]; rfl)) fun _ => rfl
  simp only [emitFloatShuffleDown]
  rw [EmitM.bind_ok (EmitM.lift_ok intTy _), EmitM.bind_ok (EmitM.lift_ok asInt _),
    EmitM.bind_ok call, EmitM.bind_ok (EmitM.lift_ok restored _), EmitM.pure_run]
  rfl

theorem isFloatTy_iff {type : IrType} : type.isFloatTy = true ↔ type = .float := by
  cases type <;> simp [IrType.isFloatTy]

theorem emitFullWarpShuffleDown_exchanges {library : String → DeviceFunction Lane}
    {offset : Value Lane} {σ : Lane → Lane} (reads : ReadsUpLane library offset σ)
    {value : Value Lane} (wide : 0 < value.type.getPrimitiveSizeInBits)
    (castable : castIsValid .bitCast value.type (.int value.type.getPrimitiveSizeInBits) = true)
    (fits : ∀ lane, value.bits lane < 2 ^ value.type.getPrimitiveSizeInBits)
    (bounded : 32 * ceilOfRatio value.type.getPrimitiveSizeInBits 32 ≤ maxIntBits)
    {builder : Builder} (admits : builder.module.Admits "__ockl_readuplane_i32" readUpLaneType) :
    (∃ builder', emitFullWarpShuffleDown library value offset builder =
      .ok (⟨value.type, fun lane => value.bits (σ lane)⟩, builder')) ∧
    (∃ builder', emitSegmentedShuffleDown library value offset builder =
      .ok (⟨value.type, fun lane => value.bits (σ lane)⟩, builder')) ∧
    (value.type = .float → emitFloatShuffleDown library value offset builder =
      emitSegmentedShuffleDown library value offset builder) := by
  have segmented := emitSegmentedShuffleDown_exchanges reads wide castable fits bounded admits
  refine ⟨?_, ⟨_, segmented⟩, fun float => ?_⟩
  · unfold emitFullWarpShuffleDown
    split
    · next fast => exact ⟨_, emitFloatShuffleDown_exchanges reads (isFloatTy_iff.mp fast.1) admits⟩
    · exact ⟨_, segmented⟩
  · rw [emitFloatShuffleDown_exchanges reads float admits, segmented]
    simp [float, IrType.getPrimitiveSizeInBits, ceilOfRatio]

/-- Whichever path it takes, `EmitFullWarpShuffleDown` reads the value once per 32-bit segment
and declares the read once, with no attributes. -/
theorem emitFullWarpShuffleDown_ok {library : String → DeviceFunction Lane}
    {offset : Value Lane} {σ : Lane → Lane} (reads : ReadsUpLane library offset σ)
    {value : Value Lane} (wide : 0 < value.type.getPrimitiveSizeInBits)
    (castable : castIsValid .bitCast value.type (.int value.type.getPrimitiveSizeInBits) = true)
    (fits : ∀ lane, value.bits lane < 2 ^ value.type.getPrimitiveSizeInBits)
    (bounded : 32 * ceilOfRatio value.type.getPrimitiveSizeInBits 32 ≤ maxIntBits)
    {builder : Builder} (admits : builder.module.Admits "__ockl_readuplane_i32" readUpLaneType) :
    emitFullWarpShuffleDown library value offset builder =
      .ok (⟨value.type, fun lane => value.bits (σ lane)⟩,
        ⟨builder.module.declareCallee "__ockl_readuplane_i32" readUpLaneType [],
          builder.calls ++ List.replicate (ceilOfRatio value.type.getPrimitiveSizeInBits 32)
            "__ockl_readuplane_i32"⟩) := by
  simp only [emitFullWarpShuffleDown]
  split
  · next fast =>
    rw [emitFloatShuffleDown_exchanges reads (isFloatTy_iff.mp fast.1) admits, fast.2]
    rfl
  · exact emitSegmentedShuffleDown_exchanges reads wide castable fits bounded admits

end Shuffle

def rotateDown : String → DeviceFunction (Fin 4) :=
  fun _ operands lane => (operands.headD fun _ => 0) (lane + 1)

theorem emitFullWarpShuffleDown_exchanges_float :
    ReadsUpLane rotateDown ⟨.int 32, fun _ => 1⟩ (· + 1) ∧ 0 < 32 ∧
    castIsValid .bitCast .float (.int 32) = true ∧
    (∀ lane : Fin 4, lane.val * 2 ^ 20 < 2 ^ 32) ∧ 32 * ceilOfRatio 32 32 ≤ maxIntBits ∧
    Module.Admits ⟨[], List.nodup_nil⟩ "__ockl_readuplane_i32" readUpLaneType ∧
    ((∃ builder', emitFullWarpShuffleDown rotateDown ⟨.float, fun lane => lane.val * 2 ^ 20⟩
        ⟨.int 32, fun _ => 1⟩ ⟨⟨[], List.nodup_nil⟩, []⟩ =
      .ok (⟨.float, fun lane => (lane + 1).val * 2 ^ 20⟩, builder')) ∧
    (∃ builder', emitSegmentedShuffleDown rotateDown ⟨.float, fun lane => lane.val * 2 ^ 20⟩
        ⟨.int 32, fun _ => 1⟩ ⟨⟨[], List.nodup_nil⟩, []⟩ =
      .ok (⟨.float, fun lane => (lane + 1).val * 2 ^ 20⟩, builder')) ∧
    (IrType.float = .float →
      emitFloatShuffleDown rotateDown ⟨.float, fun lane => lane.val * 2 ^ 20⟩
        ⟨.int 32, fun _ => 1⟩ ⟨⟨[], List.nodup_nil⟩, []⟩ =
      emitSegmentedShuffleDown rotateDown ⟨.float, fun lane => lane.val * 2 ^ 20⟩
        ⟨.int 32, fun _ => 1⟩ ⟨⟨[], List.nodup_nil⟩, []⟩)) :=
  have reads : ReadsUpLane rotateDown ⟨.int 32, fun _ => 1⟩ (· + 1) := ⟨rfl, fun _ => rfl⟩
  have fits : ∀ lane : Fin 4, lane.val * 2 ^ 20 < 2 ^ 32 := by decide
  have bounded : 32 * ceilOfRatio 32 32 ≤ maxIntBits := by decide
  have admits := Module.admits_empty "__ockl_readuplane_i32" readUpLaneType
  ⟨reads, by decide, rfl, fits, bounded, admits, @emitFullWarpShuffleDown_exchanges _ rotateDown _
    _ reads ⟨.float, fun lane => lane.val * 2 ^ 20⟩ (by decide) rfl fits bounded _ admits⟩

theorem emitFullWarpShuffleDown_aborts :
    ReadsUpLane rotateDown ⟨.int 32, fun _ => 1⟩ (· + 1) ∧
    (0 < 16777215 ∧ castIsValid .bitCast (.int 16777215) (.int 16777215) = true ∧
      Module.Admits ⟨[], List.nodup_nil⟩ "__ockl_readuplane_i32" readUpLaneType ∧
      maxIntBits < 32 * ceilOfRatio 16777215 32 ∧
      emitFullWarpShuffleDown rotateDown ⟨.int 16777215, fun _ => 0⟩ ⟨.int 32, fun _ => 1⟩
          ⟨⟨[], List.nodup_nil⟩, []⟩ =
        .error (.checkFailed "NumBits <= MAX_INT_BITS && \"bitwidth too large\"")) ∧
    (castIsValid .bitCast .float (.int 32) = true ∧ (∀ lane : Fin 4, lane.val < 2 ^ 32) ∧
      32 * ceilOfRatio 32 32 ≤ maxIntBits ∧
      ¬Module.Admits ⟨[⟨"__ockl_readuplane_i32", ⟨.int 64, [.int 64, .int 32]⟩, []⟩],
          List.nodup_singleton _⟩ "__ockl_readuplane_i32" readUpLaneType ∧
      emitFullWarpShuffleDown rotateDown ⟨.float, fun lane => lane.val⟩ ⟨.int 32, fun _ => 1⟩
          ⟨⟨[⟨"__ockl_readuplane_i32", ⟨.int 64, [.int 64, .int 32]⟩, []⟩],
            List.nodup_singleton _⟩, []⟩ =
        .error .nullDereference) :=
  ⟨⟨rfl, fun _ => rfl⟩,
    ⟨by decide, rfl, Module.admits_empty _ _, by decide, rfl⟩,
    ⟨rfl, by decide, by decide,
      fun admits => absurd (admits _ (List.mem_singleton_self _) rfl) (by decide), rfl⟩⟩

theorem emitFullWarpShuffleDown_ok_double :
    ReadsUpLane rotateDown ⟨.int 32, fun _ => 1⟩ (· + 1) ∧ 0 < 64 ∧
    castIsValid .bitCast .double (.int 64) = true ∧
    (∀ lane : Fin 4, lane.val * 2 ^ 40 < 2 ^ 64) ∧ 32 * ceilOfRatio 64 32 ≤ maxIntBits ∧
    Module.Admits ⟨[], List.nodup_nil⟩ "__ockl_readuplane_i32" readUpLaneType ∧
    emitFullWarpShuffleDown rotateDown ⟨.double, fun lane => lane.val * 2 ^ 40⟩
        ⟨.int 32, fun _ => 1⟩ ⟨⟨[], List.nodup_nil⟩, []⟩ =
      .ok (⟨.double, fun lane => (lane + 1).val * 2 ^ 40⟩,
        ⟨Module.declareCallee ⟨[], List.nodup_nil⟩ "__ockl_readuplane_i32" readUpLaneType [],
          ["__ockl_readuplane_i32", "__ockl_readuplane_i32"]⟩) :=
  have reads : ReadsUpLane rotateDown ⟨.int 32, fun _ => 1⟩ (· + 1) := ⟨rfl, fun _ => rfl⟩
  have fits : ∀ lane : Fin 4, lane.val * 2 ^ 40 < 2 ^ 64 := by decide
  have bounded : 32 * ceilOfRatio 64 32 ≤ maxIntBits := by decide
  have admits := Module.admits_empty "__ockl_readuplane_i32" readUpLaneType
  ⟨reads, by decide, rfl, fits, bounded, admits, @emitFullWarpShuffleDown_ok _ rotateDown _ _ reads
    ⟨.double, fun lane => lane.val * 2 ^ 40⟩ (by decide) rfl fits bounded _ admits⟩

end XlaGpu
