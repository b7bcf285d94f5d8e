import FaceAuth.Inference.Axis
import Mathlib.Data.List.Perm.Subperm
import Mathlib.Data.List.ProdSigma

/-!
# Bilinear resampling of an image

The tensor of a contract, filled from an image row by row, with the index of every
value that it writes. Blending and normalization are arithmetic on single numbers,
and everything else is where a value is read and where it goes.
-/

namespace FaceAuth

open Foundation Machine

namespace Inference

/-- The floating-point arithmetic of a resampling. -/
structure PixelArithmetic where
  blend : (topLeft topRight bottomLeft bottomRight weightX weightY : Float32) → Float32
  normalize : (pixel scale bias : Float32) → Float32

/-- The arithmetic of the program. -/
def sourceArithmetic : PixelArithmetic where
  blend topLeft topRight bottomLeft bottomRight weightX weightY :=
    let top := fusedMulAdd topLeft (1.0 - weightX) (topRight * weightX)
    let bottom := fusedMulAdd bottomLeft (1.0 - weightX) (bottomRight * weightX)
    fusedMulAdd top (1.0 - weightY) (bottom * weightY)
  normalize pixel scale bias := fusedMulAdd pixel scale bias

/-- A tensor that is being filled, and the indices written so far. -/
structure Target where
  values : List Float32
  written : List Nat

namespace Target

/-- Write one value of the tensor. -/
def write (target : Target) (entry : Nat × Float32) : Target :=
  ⟨target.values.set entry.1 entry.2, target.written ++ [entry.1]⟩

/-- Write one value, in bounds. -/
def put (target : Target) (index : Nat) (value : Float32) : Machine InferenceError Target :=
  if index < target.values.length then .ok (target.write (index, value)) else stop .outOfBounds

end Target

/-- A number of the size of the address space, or an error. -/
def usize (value : Nat) : Machine InferenceError Nat :=
  if value ≤ U64_MAX then .ok value else .error (.error .inputTensorInvalid)

/-- The index of a value in the layout of a contract. -/
def targetIndex (contract : InputContract) (targetX targetY channel : Nat) :
    Machine InferenceError Nat :=
  match contract.layout with
  | .nchw => do
      let plane ← unsigned U32_BOUND (contract.width * contract.height)
      let base ← usize (channel * plane)
      let row ← unsigned U32_BOUND (targetY * contract.width)
      let pixelIndex ← unsigned U32_BOUND (row + targetX)
      usize (base + pixelIndex)
  | .nhwc => do
      let row ← unsigned U32_BOUND (targetY * contract.width)
      let pixelIndex ← unsigned U32_BOUND (row + targetX)
      let base ← usize (pixelIndex * contract.channels)
      usize (base + channel)

section Fill

variable (arithmetic : PixelArithmetic) (contract : InputContract) (image : ImageView)
  (shouldCancel : Nat → Bool)

/-- Normalize a pixel and write it at its place. -/
def writeTensorValue (target : Target) (targetX targetY channel : Nat) (pixel : Float32) :
    Machine InferenceError Target := do
  let scale ← item contract.normalization.scale channel
  let bias ← item contract.normalization.bias channel
  let normalized := arithmetic.normalize pixel scale bias
  if normalized.isFinite then
    let index ← targetIndex contract targetX targetY channel
    target.put index normalized
  else .error (.error .inputTensorInvalid)

/-- The blend of four source samples. -/
def blendedPixel (columns rows : AxisSample) (channel : Nat) : Machine InferenceError Float32 := do
  let topLeft ← lift (readPixels contract image columns.lower rows.lower channel)
  let topRight ← lift (readPixels contract image columns.upper rows.lower channel)
  let bottomLeft ← lift (readPixels contract image columns.lower rows.upper channel)
  let bottomRight ← lift (readPixels contract image columns.upper rows.upper channel)
  return arithmetic.blend topLeft topRight bottomLeft bottomRight columns.weight rows.weight

/-- Interpolate one channel of one pixel. -/
def fillChannel (columns rows : AxisSample) (targetX targetY : Nat) (target : Target)
    (channel : Nat) : Machine InferenceError Target := do
  let pixel ← blendedPixel arithmetic contract image columns rows channel
  writeTensorValue arithmetic contract target targetX targetY channel pixel

/-- Fill all channels of one pixel. -/
def fillColumn (channels : Nat) (rows : AxisSample) (targetY : Nat) (target : Target)
    (targetX : Nat) : Machine InferenceError Target := do
  let columns ← interpolationAxis targetX contract.width image.width
  (List.range channels).foldlM
    (fillChannel arithmetic contract image columns rows targetX targetY) target

/-- Stop when the caller asks for it. -/
def checkCancelled (cancelled : Bool) : Machine InferenceError Unit :=
  if cancelled then .error (.error .cancelled) else .ok ()

/-- Fill one row, unless the caller has cancelled. -/
def fillRow (channels : Nat) (target : Target) (targetY : Nat) :
    Machine InferenceError Target := do
  checkCancelled (shouldCancel (targetY + 1))
  let rows ← interpolationAxis targetY contract.height image.height
  (List.range contract.width).foldlM
    (fillColumn arithmetic contract image channels rows targetY) target

/-- The tensor of an image; the signal to cancel is polled first and before each row. -/
def fillTensor : Machine InferenceError Target := do
  let channels ← lift (validatePreprocessInputs contract image)
  checkCancelled (shouldCancel 0)
  let elementCount ← lift (tensorElementCount contract.dimensions)
  (List.range contract.height).foldlM
    (fillRow arithmetic contract image shouldCancel channels) ⟨List.replicate elementCount 0.0, []⟩

/-- Resample an image row by row, with every step checked. -/
def preprocessImage : Machine InferenceError InputTensor := do
  let target ← fillTensor arithmetic contract image shouldCancel
  return ⟨contract.dimensions, target.values⟩

/-! ## The law of a cell -/

/-- Where the value of a channel at a row and a column belongs. -/
def tensorIndex (channel row column : Nat) : Nat :=
  match contract.layout with
  | .nchw => channel * (contract.width * contract.height) + (row * contract.width + column)
  | .nhwc => (row * contract.width + column) * contract.channels + channel

/-- The blend that a cell takes from its source samples. -/
def sourceCell (channel row column : Nat) : Machine InferenceError Float32 := do
  let rows ← interpolationAxis row contract.height image.height
  let columns ← interpolationAxis column contract.width image.width
  blendedPixel arithmetic contract image columns rows channel

/-- The normalization of a channel. -/
def normalized (channel : Nat) (pixel : Float32) : Float32 :=
  arithmetic.normalize pixel (contract.normalization.scale[channel]?.getD 0.0)
    (contract.normalization.bias[channel]?.getD 0.0)

/-- Every normalized blend is finite. -/
def FiniteCells : Prop :=
  ∀ channel < contract.channels, ∀ row < contract.height, ∀ column < contract.width,
    ∀ pixel, sourceCell arithmetic contract image channel row column = .ok pixel →
      (normalized arithmetic contract channel pixel).isFinite = true

/-- A fact about the value of a step, if it has one. -/
def decidableValue {Error Value : Type} (step : Except Error Value) (fact : Value → Prop)
    [DecidablePred fact] : Decidable (∀ value, step = .ok value → fact value) :=
  match step with
  | .ok value => decidable_of_iff (fact value) (by simp)
  | .error _ => isTrue (by simp)

instance : Decidable (FiniteCells arithmetic contract image) :=
  @Nat.decidableBallLT _ _ fun _ _ => @Nat.decidableBallLT _ _ fun _ _ =>
    @Nat.decidableBallLT _ _ fun _ _ => decidableValue _ _

end Fill

/-! ## Writing -/

/-- Two nested loops are one over the pairs. -/
theorem foldl_product {State First Second : Type} (step : State → First × Second → State)
    (first : List First) (second : List Second) (start : State) :
    (first ×ˢ second).foldl step start =
      first.foldl (fun state one => second.foldl (fun state other => step state (one, other)) state)
        start := by
  change (first.flatMap fun one => second.map (Prod.mk one)).foldl step start = _
  rw [List.foldl_flatMap]
  simp only [List.foldl_map]

namespace Target

variable {target : Target} {entries : List (Nat × Float32)}

/-- Writing keeps the size. -/
theorem foldl_write_length (target : Target) (entries : List (Nat × Float32)) :
    (entries.foldl write target).values.length = target.values.length := by
  induction entries generalizing target with
  | nil => rfl
  | cons entry entries ih => rw [List.foldl_cons, ih, write, List.length_set]

/-- What is written is recorded in its order. -/
theorem foldl_write_written (target : Target) (entries : List (Nat × Float32)) :
    (entries.foldl write target).written = target.written ++ entries.map Prod.fst := by
  induction entries generalizing target with
  | nil => simp
  | cons entry entries ih => simp [ih, write]

/-- What is written once is found there. -/
theorem foldl_write_at (once : (entries.map Prod.fst).Nodup)
    (inside : ∀ entry ∈ entries, entry.1 < target.values.length) :
    ∀ entry ∈ entries, (entries.foldl write target).values[entry.1]? = some entry.2 := by
  induction entries using List.reverseRecOn with
  | nil => simp
  | append_singleton entries last ih =>
      rw [List.map_append, List.nodup_append'] at once
      obtain ⟨early, -, apart⟩ := once
      intro entry member
      rw [List.foldl_append, List.foldl_cons, List.foldl_nil, write]
      rcases List.mem_append.mp member with before | same
      · have other : last.1 ≠ entry.1 := by
          intro same
          exact apart (List.mem_map_of_mem before) (by simp [same])
        rw [List.getElem?_set_ne other]
        exact ih early (fun one among => inside one (List.mem_append_left _ among)) entry before
      · rw [List.mem_singleton.mp same]
        refine List.getElem?_set_self ?_
        rw [foldl_write_length]
        exact inside last (by simp)

end Target

/-! ## Indices -/

section Indices

variable {contract : InputContract}

/-- The sizes that validation admits. -/
structure Sized (contract : InputContract) : Prop where
  width : contract.width ≤ MAX_INPUT_DIMENSION
  height : contract.height ≤ MAX_INPUT_DIMENSION
  channels : contract.channels ≤ 3

/-- A valid contract bounds its sizes. -/
theorem sized_of_valid (valid : validateInputContract contract = .ok ()) : Sized contract := by
  simp only [validateInputContract, check_bind_eq_ok_iff, require_eq_ok_iff] at valid
  obtain ⟨-, ⟨-, -, width, height⟩, channels, -⟩ := valid
  refine ⟨width, height, ?_⟩
  rw [channels]
  cases contract.colorSpace <;> decide

/-- The number of values of a tensor. -/
def elementCount (contract : InputContract) : Nat :=
  contract.height * (contract.width * contract.channels)

/-- The area of a tensor is bounded. -/
theorem Sized.area_le (sized : Sized contract) :
    contract.width * contract.height ≤ 4096 * 4096 :=
  Nat.mul_le_mul sized.width sized.height

/-- So is the number of its values. -/
theorem Sized.count_le (sized : Sized contract) :
    contract.channels * (contract.width * contract.height) ≤ 3 * (4096 * 4096) :=
  Nat.mul_le_mul sized.channels sized.area_le

/-- A tensor has a value for each channel of each pixel. -/
theorem elementCount_eq (contract : InputContract) :
    elementCount contract = contract.channels * (contract.width * contract.height) := by
  unfold elementCount
  ring

/-- The dimensions of a tensor multiply without overflow. -/
theorem checkedProduct_tensor {first second third : Nat} (one : first ≤ U64_LIMIT)
    (two : first * second ≤ U64_LIMIT) (three : first * second * third ≤ U64_LIMIT) :
    checkedProduct [1, first, second, third] = some (first * second * third) := by
  have least : 1 ≤ U64_LIMIT := by decide
  simp [checkedProduct, checkedMul, least, one, two, three]

/-- The elements of a tensor are counted. -/
theorem tensorElementCount_eq (sized : Sized contract) :
    tensorElementCount contract.dimensions = .ok (elementCount contract) := by
  have count := sized.count_le
  have channels := sized.channels
  have area := sized.area_le
  have high : contract.height ≤ 4096 := sized.height
  have limit : U64_LIMIT = 18_446_744_073_709_551_615 := rfl
  rw [elementCount_eq, tensorElementCount]
  unfold InputContract.dimensions
  cases contract.layout with
  | nchw =>
      have plane : contract.channels * contract.height ≤ 3 * 4096 :=
        Nat.mul_le_mul channels sized.height
      have total : contract.channels * contract.height * contract.width =
          contract.channels * (contract.width * contract.height) := by ring
      rw [checkedProduct_tensor (by omega) (by omega) (by omega), total]
  | nhwc =>
      have plane : contract.height * contract.width ≤ 4096 * 4096 := by
        rwa [Nat.mul_comm]
      have total : contract.height * contract.width * contract.channels =
          contract.channels * (contract.width * contract.height) := by ring
      rw [checkedProduct_tensor (by omega) (by omega) (by omega), total]

/-- The place of a value is in bounds. -/
theorem tensorIndex_lt {column row channel : Nat}
    (inside : column < contract.width) (below : row < contract.height)
    (known : channel < contract.channels) :
    tensorIndex contract channel row column < elementCount contract := by
  have pixel := pixel_lt inside below
  rw [elementCount_eq]
  unfold tensorIndex
  cases contract.layout with
  | nchw => exact (pixel_lt pixel known).trans_eq (Nat.mul_comm ..)
  | nhwc => exact pixel_lt known pixel

/-- The checked place is the place. -/
theorem targetIndex_eq (sized : Sized contract) {column row channel : Nat}
    (inside : column < contract.width) (below : row < contract.height)
    (known : channel < contract.channels) :
    targetIndex contract column row channel =
      .ok (tensorIndex contract channel row column) := by
  have index := tensorIndex_lt inside below known
  have count := sized.count_le
  have area := sized.area_le
  have pixel := pixel_lt inside below
  have word : U32_BOUND = 4_294_967_295 := rfl
  have size : U64_MAX = 18_446_744_073_709_551_615 := rfl
  rw [elementCount_eq] at index
  unfold targetIndex usize
  unfold tensorIndex at index ⊢
  cases layout : contract.layout with
  | nchw =>
      rw [layout] at index
      dsimp only at index ⊢
      rw [unsigned_eq (by omega), ok_bind, if_pos (by omega), ok_bind, unsigned_eq (by omega),
        ok_bind, unsigned_eq (by omega), ok_bind, if_pos (by omega)]
  | nhwc =>
      rw [layout] at index
      dsimp only at index ⊢
      rw [unsigned_eq (by omega), ok_bind, unsigned_eq (by omega), ok_bind, if_pos (by omega),
        ok_bind, if_pos (by omega)]

/-- A number has one high and one low digit. -/
theorem digits_eq {base high low high' low' : Nat} (small : low < base) (small' : low' < base)
    (same : high * base + low = high' * base + low') : high = high' ∧ low = low' := by
  have positive : 0 < base := Nat.zero_lt_of_lt small
  have quotient : high = high' := by
    have divided := congrArg (· / base) same
    simpa only [Nat.mul_comm _ base, Nat.mul_add_div positive, Nat.div_eq_of_lt small,
      Nat.div_eq_of_lt small', Nat.add_zero] using divided
  subst quotient
  exact ⟨rfl, Nat.add_left_cancel same⟩

theorem tensorIndex_injective {column row channel column' row' channel' : Nat}
    (inside : column < contract.width) (below : row < contract.height)
    (known : channel < contract.channels) (inside' : column' < contract.width)
    (below' : row' < contract.height) (known' : channel' < contract.channels)
    (same : tensorIndex contract channel row column = tensorIndex contract channel' row' column') :
    channel = channel' ∧ row = row' ∧ column = column' := by
  unfold tensorIndex at same
  cases layout : contract.layout with
  | nchw =>
      rw [layout] at same
      obtain ⟨channels, pixels⟩ :=
        digits_eq (pixel_lt inside below) (pixel_lt inside' below') same
      exact ⟨channels, digits_eq inside inside' pixels⟩
  | nhwc =>
      rw [layout] at same
      obtain ⟨pixels, channels⟩ := digits_eq known known' same
      exact ⟨channels, digits_eq inside inside' pixels⟩

end Indices

/-! ## Filling -/

section Law

variable (arithmetic : PixelArithmetic) (contract : InputContract) (image : ImageView)

/-- A target has a value for each cell. -/
abbrev Target.Spans (target : Target) : Prop := target.values.length = elementCount contract

/-- The blend of a cell, where it can be computed. -/
def cellValue (channel row column : Nat) : Float32 :=
  match sourceCell arithmetic contract image channel row column with
  | .ok pixel => pixel
  | .error _ => 0.0

/-- What is written for a cell, and where. -/
def entry (cell : Nat × Nat × Nat) : Nat × Float32 :=
  (tensorIndex contract cell.2.2 cell.1 cell.2.1,
    normalized arithmetic contract cell.2.2
      (cellValue arithmetic contract image cell.2.2 cell.1 cell.2.1))

/-- The rows, columns and channels of a tensor, in the order of the loops. -/
def cells : List (Nat × Nat × Nat) :=
  List.range contract.height ×ˢ (List.range contract.width ×ˢ List.range contract.channels)

variable {arithmetic contract image} {row column channel : Nat}

@[simp] theorem mem_cells {cell : Nat × Nat × Nat} : cell ∈ cells contract ↔
    cell.1 < contract.height ∧ cell.2.1 < contract.width ∧ cell.2.2 < contract.channels := by
  obtain ⟨row, column, channel⟩ := cell
  simp [cells]

/-- A contract and an image that pass their checks. -/
structure Readable (contract : InputContract) (image : ImageView) : Prop extends
    Sized contract where
  wellformed : Wellformed contract
  suits : Suits contract image

theorem Readable.rows (readable : Readable contract image) (below : row < contract.height) :
    AxisExtents row contract.height image.height :=
  ⟨below, readable.height, readable.suits.height.1, readable.suits.height.2⟩

theorem Readable.columns (readable : Readable contract image) (inside : column < contract.width) :
    AxisExtents column contract.width image.width :=
  ⟨inside, readable.width, readable.suits.width.1, readable.suits.width.2⟩

theorem sourceCell_eq (readable : Readable contract image) (inside : column < contract.width)
    (below : row < contract.height) :
    sourceCell arithmetic contract image channel row column =
      blendedPixel arithmetic contract image (axisSample column contract.width image.width)
        (axisSample row contract.height image.height) channel := by
  rw [sourceCell, interpolationAxis_eq (readable.rows below), ok_bind,
    interpolationAxis_eq (readable.columns inside), ok_bind]

/-- The four source samples lie on the image. -/
theorem blendedPixel_ok (readable : Readable contract image) (inside : column < contract.width)
    (below : row < contract.height) (known : channel < contract.channels) :
    ∃ pixel, blendedPixel arithmetic contract image
      (axisSample column contract.width image.width)
        (axisSample row contract.height image.height) channel = .ok pixel := by
  obtain ⟨left, right, -, -⟩ := axisSample_bounds (readable.columns inside)
  obtain ⟨top, bottom, -, -⟩ := axisSample_bounds (readable.rows below)
  have read : ∀ {x y}, x < image.width → y < image.height →
      ∃ value, readPixels contract image x y channel = .ok value := fun wide high =>
    readPixels_ok readable.wellformed readable.suits wide high known
  obtain ⟨topLeft, one⟩ := read (left.trans_lt right) (top.trans_lt bottom)
  obtain ⟨topRight, two⟩ := read right (top.trans_lt bottom)
  obtain ⟨bottomLeft, three⟩ := read (left.trans_lt right) bottom
  obtain ⟨bottomRight, four⟩ := read right bottom
  unfold blendedPixel
  rw [lift_eq one, ok_bind, lift_eq two, ok_bind, lift_eq three, ok_bind, lift_eq four, ok_bind]
  exact ⟨_, rfl⟩

theorem sourceCell_ok (readable : Readable contract image) (inside : column < contract.width)
    (below : row < contract.height) (known : channel < contract.channels) :
    sourceCell arithmetic contract image channel row column =
      .ok (cellValue arithmetic contract image channel row column) := by
  obtain ⟨pixel, found⟩ : ∃ pixel,
      sourceCell arithmetic contract image channel row column = .ok pixel := by
    rw [sourceCell_eq readable inside below]
    exact blendedPixel_ok readable inside below known
  rw [cellValue, found]

theorem writeTensorValue_eq (readable : Readable contract image) {target : Target}
    (inside : column < contract.width) (below : row < contract.height)
    (known : channel < contract.channels)
    (spans : target.Spans contract) {pixel : Float32}
    (finite : (normalized arithmetic contract channel pixel).isFinite = true) :
    writeTensorValue arithmetic contract target column row channel pixel =
      .ok (target.write (tensorIndex contract channel row column,
        normalized arithmetic contract channel pixel)) := by
  have scaled := List.getElem?_eq_getElem (readable.wellformed.scale ▸ known)
  have biased := List.getElem?_eq_getElem (readable.wellformed.bias ▸ known)
  have bounded := tensorIndex_lt inside below known
  unfold normalized at finite ⊢
  rw [scaled, biased, Option.getD_some, Option.getD_some] at finite ⊢
  unfold writeTensorValue Target.put
  rw [item_eq scaled, ok_bind, item_eq biased, ok_bind, if_pos finite,
    targetIndex_eq readable.toSized inside below known, ok_bind, if_pos (spans ▸ bounded)]

theorem spans_foldl {target : Target} (spans : target.Spans contract) {Item : Type}
    (next : Item → Nat × Float32) (items : List Item) :
    (items.foldl (fun target item => target.write (next item)) target).Spans contract := by
  rw [← List.foldl_map, Target.Spans, Target.foldl_write_length]
  exact spans

/-- The checks hand on the channels of the contract. -/
theorem validatePreprocessInputs_eq (readable : Readable contract image) :
    validatePreprocessInputs contract image = .ok contract.channels := by
  obtain ⟨channels, accepted⟩ :=
    (validatePreprocessInputs_iff readable.wellformed).mpr readable.suits
  rw [accepted]
  simp only [validatePreprocessInputs, check_bind_eq_ok_iff] at accepted
  obtain ⟨-, -, counted⟩ := accepted
  obtain ⟨expected, -, rest⟩ := bind_eq_ok_iff.mp counted
  rw [check_bind_eq_ok_iff] at rest
  exact rest.2.symm

variable (finite : FiniteCells arithmetic contract image)
include finite

theorem fillChannel_eq (readable : Readable contract image) {target : Target}
    (inside : column < contract.width) (below : row < contract.height)
    (known : channel < contract.channels)
    (spans : target.Spans contract) :
    fillChannel arithmetic contract image (axisSample column contract.width image.width)
        (axisSample row contract.height image.height) column row target channel =
      .ok (target.write (entry arithmetic contract image (row, column, channel))) := by
  have read : sourceCell arithmetic contract image channel row column =
    .ok (cellValue arithmetic contract image channel row column) :=
      sourceCell_ok readable inside below known
  rw [fillChannel, ← sourceCell_eq readable inside below, read, ok_bind]
  exact writeTensorValue_eq readable inside below known spans
    (finite channel known row below column inside _ read)

theorem fillColumn_eq (readable : Readable contract image) {target : Target}
    (inside : column < contract.width) (below : row < contract.height)
    (spans : target.Spans contract) :
    fillColumn arithmetic contract image contract.channels
        (axisSample row contract.height image.height) row target column =
      .ok ((List.range contract.channels).foldl
        (fun target channel =>
          target.write (entry arithmetic contract image (row, column, channel))) target) := by
  rw [fillColumn, interpolationAxis_eq (readable.columns inside), ok_bind]
  refine (foldlM_eq (Target.Spans contract) spans fun target kept channel member => ⟨?_, ?_⟩).1
  · exact fillChannel_eq finite readable inside below (List.mem_range.mp member) kept
  · rwa [Target.Spans, Target.write, List.length_set]

theorem fillRow_eq (readable : Readable contract image) {shouldCancel : Nat → Bool}
    {target : Target} (below : row < contract.height) (goesOn : shouldCancel (row + 1) = false)
    (spans : target.Spans contract) :
    fillRow arithmetic contract image shouldCancel contract.channels target row =
      .ok ((List.range contract.width ×ˢ List.range contract.channels).foldl
        (fun target rest =>
          target.write (entry arithmetic contract image (row, rest))) target) := by
  rw [fillRow, checkCancelled, goesOn, if_neg Bool.false_ne_true, ok_bind,
    interpolationAxis_eq (readable.rows below), ok_bind, foldl_product]
  refine (foldlM_eq (Target.Spans contract) spans fun target kept column member => ⟨?_, ?_⟩).1
  · exact fillColumn_eq finite readable (List.mem_range.mp member) below kept
  · exact spans_foldl kept _ _

theorem fillTensor_eq (readable : Readable contract image) {shouldCancel : Nat → Bool}
    (goesOn : ∀ poll ≤ contract.height, shouldCancel poll = false) :
    fillTensor arithmetic contract image shouldCancel =
      .ok (((cells contract).map (entry arithmetic contract image)).foldl Target.write
        ⟨List.replicate (elementCount contract) 0.0, []⟩) := by
  rw [fillTensor, lift_eq (validatePreprocessInputs_eq readable), ok_bind, checkCancelled,
    goesOn 0 (Nat.zero_le _),
    if_neg Bool.false_ne_true, ok_bind, lift_eq (tensorElementCount_eq readable.toSized), ok_bind,
    List.foldl_map, cells, foldl_product]
  refine (foldlM_eq (Target.Spans contract) ?_ fun target kept row member => ⟨?_, ?_⟩).1
  · exact List.length_replicate
  · have below := List.mem_range.mp member
    exact fillRow_eq finite readable below (goesOn _ below) kept
  · exact spans_foldl kept _ _

end Law

/-! ## Placement -/

section Placement

variable (arithmetic : PixelArithmetic) (contract : InputContract) (image : ImageView)

/-- Every value of a tensor is written once, and is the normalized blend of its cell. -/
structure Placed (target : Target) : Prop where
  length : target.values.length = elementCount contract
  once : target.written.Perm (List.range target.values.length)
  cell : ∀ channel < contract.channels, ∀ row < contract.height, ∀ column < contract.width,
    ∃ pixel, sourceCell arithmetic contract image channel row column = .ok pixel ∧
      target.values[tensorIndex contract channel row column]? =
        some (normalized arithmetic contract channel pixel)

variable {arithmetic contract image}

theorem nodup_indices (arithmetic : PixelArithmetic) (contract : InputContract)
    (image : ImageView) :
    (((cells contract).map (entry arithmetic contract image)).map Prod.fst).Nodup := by
  have once : (cells contract).Nodup :=
    List.nodup_range.product (List.nodup_range.product List.nodup_range)
  rw [List.map_map]
  refine List.Nodup.map_on ?_ once
  intro first one second two same
  rw [mem_cells] at one two
  obtain ⟨channels, rows, columns⟩ := tensorIndex_injective one.2.1 one.1 one.2.2 two.2.1 two.1
    two.2.2 same
  exact Prod.ext rows (Prod.ext columns channels)

theorem mem_indices {index : Nat} (arithmetic : PixelArithmetic) (image : ImageView)
    (member : index ∈ ((cells contract).map (entry arithmetic contract image)).map Prod.fst) :
    index < elementCount contract := by
  rw [List.map_map, List.mem_map] at member
  obtain ⟨cell, among, rfl⟩ := member
  rw [mem_cells] at among
  exact tensorIndex_lt among.2.1 among.1 among.2.2

theorem fillTensor_placed (readable : Readable contract image)
    (finite : FiniteCells arithmetic contract image) {shouldCancel : Nat → Bool}
    (goesOn : ∀ poll ≤ contract.height, shouldCancel poll = false) :
    ∃ target, fillTensor arithmetic contract image shouldCancel = .ok target ∧
      Placed arithmetic contract image target := by
  refine ⟨_, fillTensor_eq finite readable goesOn, ?_, ?_, ?_⟩
  · rw [Target.foldl_write_length]
    exact List.length_replicate
  · rw [Target.foldl_write_written, Target.foldl_write_length, List.length_replicate,
      List.nil_append]
    refine (List.subperm_of_subset (nodup_indices arithmetic contract image) fun index member =>
      List.mem_range.mpr (mem_indices arithmetic image member)).perm_of_length_le ?_
    simp [cells, elementCount, List.length_product]
  · intro channel known row below column inside
    refine ⟨_, sourceCell_ok readable inside below known, ?_⟩
    have once := nodup_indices arithmetic contract image
    refine Target.foldl_write_at once ?_ (entry arithmetic contract image (row, column, channel))
      (List.mem_map_of_mem (mem_cells.mpr ⟨below, inside, known⟩))
    intro written member
    rw [List.length_replicate]
    exact mem_indices arithmetic image (List.mem_map_of_mem member)

theorem Readable.layout (readable : Readable contract image) (layout : TensorLayout) :
    Readable { contract with layout := layout } image :=
  ⟨⟨readable.width, readable.height, readable.channels⟩,
    ⟨readable.wellformed.width, readable.wellformed.height, readable.wellformed.scale,
      readable.wellformed.bias, readable.wellformed.channels⟩,
    ⟨readable.suits.width, readable.suits.height, readable.suits.packed, readable.suits.color⟩⟩

end Placement

/-! ## Colors -/

/-- Each pixel of three bytes the other way round. -/
def swapBytes : List UInt8 → List UInt8
  | first :: green :: third :: rest => third :: green :: first :: swapBytes rest
  | rest => rest

theorem length_swapBytes (bytes : List UInt8) : (swapBytes bytes).length = bytes.length := by
  induction bytes using swapBytes.induct with
  | case1 first green third rest ih => simp [swapBytes, ih]
  | case2 rest short => rw [swapBytes]; exact short

theorem swapBytes_getElem {bytes : List UInt8} (triples : bytes.length % 3 = 0) (pixel : Nat) :
    (swapBytes bytes)[pixel * 3]? = bytes[pixel * 3 + 2]? ∧
      (swapBytes bytes)[pixel * 3 + 1]? = bytes[pixel * 3 + 1]? ∧
      (swapBytes bytes)[pixel * 3 + 2]? = bytes[pixel * 3]? := by
  induction bytes using swapBytes.induct generalizing pixel with
  | case1 first green third rest ih =>
      cases pixel with
      | zero => exact ⟨rfl, rfl, rfl⟩
      | succ pixel =>
          have shorter : rest.length % 3 = 0 := by
            simp only [List.length_cons] at triples
            omega
          rw [swapBytes, Nat.succ_mul]
          exact ih shorter pixel
  | case2 rest short =>
      have empty : rest = [] := by
        match rest, short with
        | [], _ => rfl
        | [_], _ => simp at triples
        | [_, _], _ => simp at triples
        | first :: green :: third :: rest, short => exact (short first green third rest rfl).elim
      subst empty
      simp [swapBytes]

section Colors

variable {arithmetic : PixelArithmetic} {contract : InputContract} {image : ImageView}

/-- The same pixels, blue first. -/
def ImageView.swapped (image : ImageView) : ImageView :=
  { image with format := .bgr8, bytes := swapBytes image.bytes }

theorem byteAt_congr {one other : ImageView} {index index' : Nat}
    (same : one.bytes[index]? = other.bytes[index']?) : byteAt one index = byteAt other index' := by
  rw [byteAt, byteAt, same]

/-- A pixel has three channels. -/
theorem length_pixelRgb {x y : Nat} {rgb : List UInt8} (read : pixelRgb image x y = .ok rgb) :
    rgb.length = 3 := by
  unfold pixelRgb yuyvRgb at read
  split at read <;> simp only [bind_eq_ok_iff] at read
  · obtain ⟨luma, -, blue, -, red, -, same⟩ := read
    cases same
    rfl
  · obtain ⟨first, -, green, -, third, -, same⟩ := read
    split at same <;> cases same <;> rfl

theorem pixelRgb_swapped (format : image.format = .rgb8) (triples : image.bytes.length % 3 = 0)
    (x y : Nat) : pixelRgb image.swapped x y = pixelRgb image x y := by
  obtain ⟨first, green, third⟩ := swapBytes_getElem triples (y * image.width + x)
  have one : byteAt image.swapped ((y * image.width + x) * 3) =
      byteAt image ((y * image.width + x) * 3 + 2) := byteAt_congr first
  have two : byteAt image.swapped ((y * image.width + x) * 3 + 1) =
      byteAt image ((y * image.width + x) * 3 + 1) := byteAt_congr green
  have three : byteAt image.swapped ((y * image.width + x) * 3 + 2) =
      byteAt image ((y * image.width + x) * 3) := byteAt_congr third
  unfold pixelRgb
  rw [show image.swapped.format = .bgr8 from rfl, show image.swapped.width = image.width from rfl,
    format]
  dsimp only
  rw [one, two, three]
  unfold byteAt
  generalize image.bytes[(y * image.width + x) * 3]? = red
  generalize image.bytes[(y * image.width + x) * 3 + 1]? = middle
  generalize image.bytes[(y * image.width + x) * 3 + 2]? = blue
  cases red <;> cases middle <;> cases blue <;> rfl

theorem readPixels_swapped (format : image.format = .rgb8)
    (triples : image.bytes.length % 3 = 0) :
    readPixels contract image.swapped = readPixels contract image := by
  funext x y channel
  unfold readPixels sourceChannel
  rw [pixelRgb_swapped format triples, format]
  rfl

theorem validatePreprocessInputs_swapped (format : image.format = .rgb8) :
    validatePreprocessInputs contract image.swapped = validatePreprocessInputs contract image := by
  unfold validatePreprocessInputs expectedBytes ImageView.swapped
  simp only [length_swapBytes, format, reduceCtorEq, iff_false]

/-- An image and the same one blue first give one tensor. -/
theorem preprocessImage_swapped (format : image.format = .rgb8)
    (triples : image.bytes.length % 3 = 0) (shouldCancel : Nat → Bool) :
    preprocessImage arithmetic contract image.swapped shouldCancel =
      preprocessImage arithmetic contract image shouldCancel := by
  have blended : blendedPixel arithmetic contract image.swapped =
      blendedPixel arithmetic contract image := by
    unfold blendedPixel
    rw [readPixels_swapped format triples]
  unfold preprocessImage fillTensor fillRow fillColumn fillChannel
  rw [validatePreprocessInputs_swapped format, blended]
  rfl

/-- A contract that takes blue first. -/
def blueFirst (contract : InputContract) : InputContract :=
  { contract with colorSpace := .bgr }

theorem readPixels_blueFirst (color : contract.colorSpace = .rgb) {channel : Nat}
    (known : channel < 3) (x y : Nat) :
    readPixels (blueFirst contract) image x y channel =
      readPixels contract image x y (2 - channel) := by
  unfold readPixels sourceChannel
  rw [show (blueFirst contract).colorSpace = .bgr from rfl, color]
  split
  · rfl
  · cases read : pixelRgb image x y with
    | error error => rfl
    | ok rgb =>
        have place : rgb.reverse[channel]? = rgb[2 - channel]? := by
          have three := length_pixelRgb read
          rw [List.getElem?_reverse (by omega), three]
        have ordered (next : List UInt8 → Except InferenceError Float32) :
            (Except.ok rgb >>= fun values => orderedChannels .bgr values >>= next) =
              next rgb.reverse := rfl
        rw [ordered, place]
        rfl

theorem sourceCell_blueFirst (color : contract.colorSpace = .rgb) {channel : Nat}
    (known : channel < 3) (row column : Nat) :
    sourceCell arithmetic (blueFirst contract) image channel row column =
      sourceCell arithmetic contract image (2 - channel) row column := by
  unfold sourceCell blendedPixel
  simp only [readPixels_blueFirst color known]
  rfl

end Colors

theorem readable_of_accepted {contract : InputContract} {image : ImageView} {channels : Nat}
    (valid : validateInputContract contract = .ok ())
    (accepted : validatePreprocessInputs contract image = .ok channels) :
    Readable contract image :=
  ⟨sized_of_valid valid, wellformed_of_valid valid,
    (validatePreprocessInputs_iff (wellformed_of_valid valid)).mp ⟨channels, accepted⟩⟩

/-- A contract for two pixels of three channels. -/
def twoPixels : InputContract where
  name := [120]
  width := 2
  height := 1
  channels := 3
  layout := .nchw
  colorSpace := .rgb
  normalization := ⟨[0.5, 0.5, 0.5], [0.0, 0.0, 0.0]⟩

/-- A red and a green pixel. -/
def redGreen : ImageView := ⟨2, 1, .rgb8, [255, 0, 0, 0, 255, 0]⟩

end Inference

end FaceAuth
