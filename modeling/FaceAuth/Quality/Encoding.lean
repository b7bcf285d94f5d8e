import FaceAuth.Quality.ScanSafety

/-!
# Independence of the encoding

A grayscale image, the color image with equal channels and a packed image with the
same luma and any chroma have the same luma at each pixel. An assessment reads
nothing else of an image, and so it reports the same.
-/

namespace FaceAuth.Quality

open Foundation Machine QualityImageView

/-- The bytes of a color image whose channels agree. -/
def tripled (pixels : List UInt8) : List UInt8 := pixels.flatMap fun value => [value, value, value]

/-- The bytes of a packed image. -/
def interleaved (pixels chroma : List UInt8) : List UInt8 :=
  (pixels.zip chroma).flatMap fun pair => [pair.1, pair.2]

/-- Swap the chroma bytes of each pair of pixels. -/
def swapChroma : List UInt8 → List UInt8
  | first :: blue :: second :: red :: rest => first :: red :: second :: blue :: swapChroma rest
  | rest => rest

/-- The Laplacian values that a pass takes in, in its order. -/
def laplacians (image : QualityImageView) (region : PixelRegion) :
    Machine QualityError (List (Machine QualityError Int)) := do
  let rows ← interior region.yStart region.yEnd
  let columns ← interior region.xStart region.xEnd
  return rows.flatMap fun y => columns.map fun x => laplacian image x y

/-- Two images of which every scan and every assessment makes the same. -/
structure SameQuality (image other : QualityImageView) : Prop where
  lumaPass : ∀ cancelled region polls, region.Inside image →
    scanLuma cancelled image region polls = scanLuma cancelled other region polls
  laplacians : ∀ region, region.Inside image → laplacians image region = laplacians other region
  laplacianPass : ∀ cancelled region polls, region.Inside image →
    scanLaplacian cancelled image region polls = scanLaplacian cancelled other region polls
  measured : ∀ cancelled region geometry config polls, region.Inside image →
    measureRegion cancelled image region geometry config polls =
      measureRegion cancelled other region geometry config polls
  assessed : ∀ cancelled geometry config,
    assessCancellable cancelled image geometry config =
      assessCancellable cancelled other geometry config

/-! ## Images with the same luma -/

/-- Two images of one size with the same luma at each pixel. -/
structure SameLuma (image other : QualityImageView) : Prop where
  width : image.width = other.width
  height : image.height = other.height
  luma : ∀ x y, x < image.width.toNat → y < image.height.toNat →
    luma image x y = luma other x y

/-- A scan depends on what its visits give. -/
theorem scanPixels_congr {Collected : Type} {cancelled : Nat → Bool}
    {visit other : Collected → Nat → Nat → Machine QualityError Collected} {rows : List Nat}
    {columns : Machine QualityError (List Nat)}
    (same : ∀ places, columns = .ok places → ∀ x ∈ places, ∀ y ∈ rows, ∀ collected,
      visit collected x y = other collected x y) (start : Collected) (polls : Nat) :
    scanPixels cancelled visit rows columns start polls =
      scanPixels cancelled other rows columns start polls := by
  unfold scanPixels
  congr 1
  apply foldlM_congr
  intro pass y row
  refine bind_congr_ok fun places listed => ?_
  apply foldlM_congr
  intro pass x column
  refine bind_congr_ok fun polled _ => bind_congr_ok fun _ _ => ?_
  rw [same places listed x column y row]

section

variable {image other : QualityImageView} {region : PixelRegion}

/-- Interior places have a neighbour on each side. -/
theorem interior_bounds {first last : Nat} {places : List Nat}
    (listed : interior first last = .ok places) {place : Nat} (member : place ∈ places) :
    first < place ∧ place + 1 < last := by
  simp only [interior, bind_eq_ok_iff, unsigned_eq_ok_iff, subtract_eq_ok_iff] at listed
  obtain ⟨start, ⟨-, up⟩, stop, ⟨-, down⟩, same⟩ := listed
  obtain rfl := Except.ok.inj same
  have bounds := mem_range member
  omega

/-- The Laplacian depends on the luma. -/
theorem laplacian_congr (same : SameLuma image other) {x y : Nat} (left : 0 < x)
    (right : x + 1 < image.width.toNat) (top : 0 < y) (bottom : y + 1 < image.height.toNat) :
    laplacian image x y = laplacian other x y := by
  have columns : image.width.toNat < 2 ^ 32 := image.width.toNat_lt
  have rows : image.height.toNat < 2 ^ 32 := image.height.toNat_lt
  have limit := U64_literal
  unfold laplacian
  rw [subtract_eq left, subtract_eq top, unsigned_eq (show x + 1 ≤ U64_MAX by omega),
    unsigned_eq (show y + 1 ≤ U64_MAX by omega)]
  simp only [ok_bind]
  rw [same.luma x y (by omega) (by omega), same.luma (x - 1) y (by omega) (by omega),
    same.luma (x + 1) y right (by omega), same.luma x (y - 1) (by omega) (by omega),
    same.luma x (y + 1) (by omega) bottom]

/-- The first pass depends on the luma. -/
theorem scanLuma_congr (same : SameLuma image other) (inside : region.Inside image)
    (cancelled : Nat → Bool) (polls : Nat) :
    scanLuma cancelled image region polls = scanLuma cancelled other region polls := by
  have right := inside.right
  have bottom := inside.bottom
  apply scanPixels_congr
  intro places listed x column y row collected
  obtain rfl := Except.ok.inj listed
  have column := mem_range column
  have row := mem_range row
  unfold LumaStatistics.visit
  rw [same.luma x y (by omega) (by omega)]

/-- The second pass depends on the luma. -/
theorem scanLaplacian_congr (same : SameLuma image other) (inside : region.Inside image)
    (cancelled : Nat → Bool) (polls : Nat) :
    scanLaplacian cancelled image region polls = scanLaplacian cancelled other region polls := by
  have right := inside.right
  have bottom := inside.bottom
  unfold scanLaplacian
  refine bind_congr_ok fun rows listed => ?_
  congr 1
  apply scanPixels_congr
  intro places listed' x column y row collected
  have column := interior_bounds listed' column
  have row := interior_bounds listed row
  unfold Moments.visit
  rw [laplacian_congr same (by omega) (by omega) (by omega) (by omega)]

/-- So do the values that it visits. -/
theorem laplacians_congr (same : SameLuma image other) (inside : region.Inside image) :
    laplacians image region = laplacians other region := by
  have right := inside.right
  have bottom := inside.bottom
  unfold laplacians
  refine bind_congr_ok fun rows listed => bind_congr_ok fun columns listed' => ?_
  congr 1
  apply List.flatMap_congr
  intro y row
  apply List.map_congr_left
  intro x column
  have column := interior_bounds listed' column
  have row := interior_bounds listed row
  exact laplacian_congr same (by omega) (by omega) (by omega) (by omega)

/-- The measurements depend on the luma. -/
theorem measureRegion_congr (same : SameLuma image other) (inside : region.Inside image)
    (cancelled : Nat → Bool) (geometry : FaceGeometry) (config : QualityConfig) (polls : Nat) :
    measureRegion cancelled image region geometry config polls =
      measureRegion cancelled other region geometry config polls := by
  unfold measureRegion
  rw [scanLuma_congr same inside]
  refine bind_congr_ok fun result _ => ?_
  dsimp only
  rw [scanLaplacian_congr same inside]

/-- The whole assessment depends on the luma. -/
theorem assessCancellable_congr (same : SameLuma image other) (cancelled : Nat → Bool)
    (geometry : FaceGeometry) (config : QualityConfig) :
    assessCancellable cancelled image geometry config =
      assessCancellable cancelled other geometry config := by
  unfold assessCancellable
  rw [← same.width, ← same.height]
  refine bind_congr_ok fun polls _ => bind_congr_ok fun _ _ => bind_congr_ok fun _ _ =>
    bind_congr_ok fun _ _ => bind_congr_ok fun _ _ => bind_congr_ok fun region located =>
    bind_congr_ok fun _ _ => ?_
  rw [lift_eq_ok_iff] at located
  exact measureRegion_congr same (fromGeometry_inside located) cancelled geometry config polls

/-- Images of one luma have one quality. -/
theorem SameLuma.quality (same : SameLuma image other) : SameQuality image other where
  lumaPass cancelled _ polls inside := scanLuma_congr same inside cancelled polls
  laplacians _ := laplacians_congr same
  laplacianPass cancelled _ polls inside := scanLaplacian_congr same inside cancelled polls
  measured cancelled _ geometry config polls inside :=
    measureRegion_congr same inside cancelled geometry config polls
  assessed := assessCancellable_congr same

end

/-! ## Encodings of the same luma -/

/-- What makes the layout of an image valid. -/
theorem layout_iff {width height : UInt32} {actualBytes channels : Nat} (few : channels ≤ 3) :
    validateImageLayout width height actualBytes channels = .ok () ↔
      (width ≠ 0 ∧ height ≠ 0 ∧ width.toNat ≤ ABSOLUTE_MAX_IMAGE_DIMENSION ∧
        height.toNat ≤ ABSOLUTE_MAX_IMAGE_DIMENSION) ∧
      width.toNat * height.toNat ≤ ABSOLUTE_MAX_IMAGE_PIXELS ∧
      actualBytes = width.toNat * height.toNat * channels := by
  have limit := U64_literal
  have ceiling := ceiling_literal
  simp only [validateImageLayout, check_bind_eq_ok_iff, require_eq_ok_iff]
  constructor
  · rintro ⟨sides, -, pixels, -, bytes⟩
    exact ⟨sides, pixels, bytes⟩
  · rintro ⟨sides, pixels, bytes⟩
    have total : width.toNat * height.toNat * channels ≤ 16_777_216 * 3 :=
      Nat.mul_le_mul (by omega) few
    exact ⟨sides, by omega, pixels, by omega, bytes⟩

/-- Parts of one length, one after another. -/
theorem getElem?_flatMap_parts {Item Part : Type} {parts : Item → List Part} {length : Nat}
    (uniform : ∀ item, (parts item).length = length) (items : List Item) (index : Nat)
    {offset : Nat} (below : offset < length) :
    (items.flatMap parts)[index * length + offset]? =
      items[index]?.bind fun item => (parts item)[offset]? := by
  induction items generalizing index with
  | nil => rfl
  | cons item rest ih =>
      rw [List.flatMap_cons]
      cases index with
      | zero =>
          rw [Nat.zero_mul, Nat.zero_add, List.getElem?_append_left (by rw [uniform]; exact below)]
          rfl
      | succ index =>
          have later : (index + 1) * length + offset =
              (parts item).length + (index * length + offset) := by
            rw [uniform, Nat.add_mul, Nat.one_mul]
            omega
          rw [later, List.getElem?_append_right (Nat.le_add_right _ _), Nat.add_sub_cancel_left,
            ih]
          rfl

/-- Items of equally many parts. -/
theorem length_flatMap_parts {Item Part : Type} {parts : Item → List Part} {length : Nat}
    (uniform : ∀ item, (parts item).length = length) (items : List Item) :
    (items.flatMap parts).length = items.length * length := by
  induction items with
  | nil => exact (Nat.zero_mul _).symm
  | cons item rest ih =>
      rw [List.flatMap_cons, List.length_append, uniform, ih, List.length_cons, Nat.add_mul,
        Nat.one_mul, Nat.add_comm]

section

variable {width height : UInt32} {pixels chroma : List UInt8} {x y : Nat}

/-- A byte in bounds is read. -/
theorem byteAt_eq {image : QualityImageView} {index : Nat} {value : UInt8}
    (known : image.pixels[index]? = some value) (fits : index ≤ U64_MAX) :
    byteAt image index = .ok value := by
  rw [byteAt, unsigned_eq fits, ok_bind, item_eq known]

/-- The luma of a gray image is its byte. -/
theorem luma_gray {value : UInt8} (known : pixels[y * width.toNat + x]? = some value)
    (fits : y * width.toNat + x ≤ U64_MAX) :
    luma ⟨width, height, .gray8, pixels⟩ x y = .ok value := by
  rw [luma, unsigned_eq (by dsimp only; omega), ok_bind, unsigned_eq fits, ok_bind]
  exact byteAt_eq known fits

/-- The luma of equal colours is their byte. -/
theorem luma_tripled {value : UInt8} (known : pixels[y * width.toNat + x]? = some value)
    (fits : (y * width.toNat + x) * 3 + 2 ≤ U64_MAX) :
    luma ⟨width, height, .rgb8, tripled pixels⟩ x y = .ok value := by
  have channel : ∀ offset < 3,
      (tripled pixels)[(y * width.toNat + x) * 3 + offset]? = some value := by
    intro offset below
    have uniform : ∀ value : UInt8, [value, value, value].length = 3 := fun _ => rfl
    rw [tripled, getElem?_flatMap_parts uniform pixels _ below, known]
    match offset, below with
    | 0, _ | 1, _ | 2, _ => rfl
  have bounded := value.toNat_lt
  have limit := U32_literal
  rw [luma, unsigned_eq (by dsimp only; omega), ok_bind, unsigned_eq (by dsimp only; omega),
    ok_bind]
  dsimp only
  rw [byteAt_eq (channel 0 (by decide)) (by omega), ok_bind,
    byteAt_eq (channel 1 (by decide)) (by omega), ok_bind,
    byteAt_eq (channel 2 (by decide)) (by omega), ok_bind, unsigned_eq (by omega), ok_bind]
  have weighed : (77 * value.toNat + 150 * value.toNat + 29 * value.toNat + 128) / 256 =
      value.toNat := by
    omega
  rw [weighed, converts_narrowOr (by omega) (by omega), ok_bind, Int.toNat_natCast]
  exact congrArg Except.ok (UInt8.ofNat_toNat)

/-- The luma of a packed image is every other byte. -/
theorem luma_yuyv {value : UInt8} {bytes : List UInt8}
    (known : bytes[(y * width.toNat + x) * 2]? = some value)
    (fits : (y * width.toNat + x) * 2 ≤ U64_MAX) :
    luma ⟨width, height, .yuyv, bytes⟩ x y = .ok value := by
  rw [luma, unsigned_eq (by dsimp only; omega), ok_bind, unsigned_eq (by dsimp only; omega),
    ok_bind]
  exact byteAt_eq known fits

/-- Luma is at every other place among the chroma. -/
theorem getElem?_interleaved (length : chroma.length = pixels.length) (index : Nat) :
    (interleaved pixels chroma)[index * 2]? = pixels[index]? := by
  have uniform : ∀ pair : UInt8 × UInt8, [pair.1, pair.2].length = 2 := fun _ => rfl
  have first := getElem?_flatMap_parts uniform (pixels.zip chroma) index
    (show 0 < 2 by decide)
  have paired : (pixels.zip chroma).map Prod.fst = pixels := List.map_fst_zip length.ge
  rw [Nat.add_zero] at first
  rw [interleaved, first]
  conv => rhs; rw [← paired, List.getElem?_map]
  cases (pixels.zip chroma)[index]? with
  | none => rfl
  | some pair => rfl

/-- Changing the chroma keeps the length. -/
theorem length_swapChroma (bytes : List UInt8) : (swapChroma bytes).length = bytes.length := by
  fun_induction swapChroma bytes with
  | case1 first blue second red rest ih => simp [ih]
  | case2 rest => rfl

/-- Changing the chroma keeps the luma. -/
theorem getElem?_swapChroma (bytes : List UInt8) (index : Nat) :
    (swapChroma bytes)[index * 2]? = bytes[index * 2]? := by
  fun_induction swapChroma bytes generalizing index with
  | case1 first blue second red rest ih =>
      match index with
      | 0 => rfl
      | 1 => rfl
      | index + 2 =>
          rw [show (index + 2) * 2 = index * 2 + 4 by omega]
          exact ih index
  | case2 rest => rfl

/-- The luma does not depend on the chroma. -/
theorem luma_swapChroma :
    luma ⟨width, height, .yuyv, pixels⟩ x y =
      luma ⟨width, height, .yuyv, swapChroma pixels⟩ x y := by
  refine bind_congr_ok fun row _ => bind_congr_ok fun pixel _ => bind_congr_ok fun index bound => ?_
  obtain ⟨-, same⟩ := unsigned_eq_ok_iff.mp bound
  unfold item
  dsimp only
  rw [← same, getElem?_swapChroma]

/-- Swapping the chroma bytes of a packed image does not change its quality. -/
theorem swapChroma_quality {packed : QualityImageView}
    (made : yuyv width height pixels = .ok packed) :
    ∃ swapped, yuyv width height (swapChroma pixels) = .ok swapped ∧
      SameQuality packed swapped := by
  unfold yuyv at made ⊢
  rw [length_swapChroma]
  simp only [check_bind_eq_ok_iff] at made
  obtain ⟨even, valid, same⟩ := made
  obtain rfl := Except.ok.inj same
  refine ⟨⟨width, height, .yuyv, swapChroma pixels⟩, ?_, ?_⟩
  · simp only [check_bind_eq_ok_iff]
    exact ⟨even, valid, rfl⟩
  · have sameLuma : SameLuma ⟨width, height, .yuyv, pixels⟩
        ⟨width, height, .yuyv, swapChroma pixels⟩ :=
      ⟨rfl, rfl, fun _ _ _ _ => luma_swapChroma⟩
    exact sameLuma.quality

end

section

variable {width height : UInt32} {pixels chroma : List UInt8} {gray : QualityImageView}

/-- A gray image is what it was made of. -/
theorem gray8_eq_ok (made : gray8 width height pixels = .ok gray) :
    gray = ⟨width, height, .gray8, pixels⟩ ∧
      validateImageLayout width height pixels.length 1 = .ok () := by
  unfold gray8 at made
  rw [check_bind_eq_ok_iff] at made
  exact ⟨(Except.ok.inj made.2).symm, made.1⟩

/-- The byte of each pixel of an image is there, at a place that the machine can number. -/
theorem pixel_known (valid : validateImageLayout width height pixels.length 1 = .ok ())
    {x y : Nat} (column : x < width.toNat) (row : y < height.toNat) :
    ∃ value, pixels[y * width.toNat + x]? = some value ∧
      (y * width.toNat + x) * 3 + 2 ≤ U64_MAX := by
  obtain ⟨-, ceiling, length⟩ := (layout_iff (by decide)).mp valid
  have limit := U64_literal
  have below := pixel_lt column row
  rw [ceiling_literal] at ceiling
  refine ⟨_, List.getElem?_eq_getElem (by omega), by omega⟩

/-- A gray image has the quality of its colours. -/
theorem tripled_quality (made : gray8 width height pixels = .ok gray) :
    ∃ color, rgb8 width height (tripled pixels) = .ok color ∧ SameQuality gray color := by
  obtain ⟨rfl, valid⟩ := gray8_eq_ok made
  have uniform : ∀ value : UInt8, [value, value, value].length = 3 := fun _ => rfl
  have length : (tripled pixels).length = pixels.length * 3 :=
    length_flatMap_parts uniform pixels
  have layout := (layout_iff (by decide)).mp valid
  refine ⟨⟨width, height, .rgb8, tripled pixels⟩, ?_, ?_⟩
  · unfold rgb8
    rw [check_bind_eq_ok_iff, layout_iff (by decide), length]
    exact ⟨⟨layout.1, layout.2.1, by omega⟩, rfl⟩
  · have same : SameLuma ⟨width, height, .gray8, pixels⟩
        ⟨width, height, .rgb8, tripled pixels⟩ := by
      refine ⟨rfl, rfl, fun x y column row => ?_⟩
      obtain ⟨value, known, fits⟩ := pixel_known valid column row
      rw [luma_gray known (by omega), luma_tripled known fits]
    exact same.quality

/-- A gray image has the quality of its packed encodings. -/
theorem interleaved_quality (made : gray8 width height pixels = .ok gray)
    (even : width.toNat % 2 = 0) (paired : chroma.length = pixels.length) :
    ∃ packed, yuyv width height (interleaved pixels chroma) = .ok packed ∧
      SameQuality gray packed := by
  obtain ⟨rfl, valid⟩ := gray8_eq_ok made
  have uniform : ∀ pair : UInt8 × UInt8, [pair.1, pair.2].length = 2 := fun _ => rfl
  have length : (interleaved pixels chroma).length = pixels.length * 2 := by
    rw [interleaved, length_flatMap_parts uniform, List.length_zip, paired, Nat.min_self]
  have layout := (layout_iff (by decide)).mp valid
  refine ⟨⟨width, height, .yuyv, interleaved pixels chroma⟩, ?_, ?_⟩
  · unfold yuyv
    rw [check_bind_eq_ok_iff, require_eq_ok_iff, check_bind_eq_ok_iff, layout_iff (by decide),
      length]
    exact ⟨even, ⟨layout.1, layout.2.1, by omega⟩, rfl⟩
  · have same : SameLuma ⟨width, height, .gray8, pixels⟩
        ⟨width, height, .yuyv, interleaved pixels chroma⟩ := by
      refine ⟨rfl, rfl, fun x y column row => ?_⟩
      obtain ⟨value, known, fits⟩ := pixel_known valid column row
      have packed := getElem?_interleaved paired (y * width.toNat + x)
      rw [luma_gray known (by omega), luma_yuyv (packed.trans known) (by omega)]
    exact same.quality

end

/-- The quality of an image does not depend on its encoding, nor on its chroma. -/
theorem quality_encoding_independent (width height : UInt32) :
    (∀ (pixels : List UInt8) (gray : QualityImageView), gray8 width height pixels = .ok gray →
      (∃ color, rgb8 width height (tripled pixels) = .ok color ∧ SameQuality gray color) ∧
      (width.toNat % 2 = 0 → ∀ chroma : List UInt8, chroma.length = pixels.length →
        ∃ packed, yuyv width height (interleaved pixels chroma) = .ok packed ∧
          SameQuality gray packed)) ∧
    ∀ (bytes : List UInt8) (packed : QualityImageView), yuyv width height bytes = .ok packed →
      ∃ swapped, yuyv width height (swapChroma bytes) = .ok swapped ∧
        SameQuality packed swapped :=
  ⟨fun _ _ made =>
    ⟨tripled_quality made, fun even _ paired => interleaved_quality made even paired⟩,
    fun _ _ made => swapChroma_quality made⟩

/-- Two gray pixels and their packed encoding. -/
theorem quality_encoding_independent_pair :
    ∃ packed, yuyv 2 1 [7, 90, 9, 170] = .ok packed ∧
      SameQuality ⟨2, 1, .gray8, [7, 9]⟩ packed :=
  ((quality_encoding_independent 2 1).1 [7, 9] _ rfl).2 rfl [90, 170] rfl

end FaceAuth.Quality
