import FaceAuth.Quality.Scan
import Mathlib.Algebra.BigOperators.Group.List.Basic
import Mathlib.Algebra.Order.BigOperators.Group.List
import Mathlib.Tactic.Linarith

/-!
# Safety of quality scans

No pass over an admitted region reads outside of the image, and no number that it
computes leaves its type. What a pass over the luma collects accounts for each
pixel of the region once.
-/

namespace FaceAuth

open Foundation

namespace QualityImageView

/-- An image that the constructor of its encoding accepts. -/
def Constructed (image : QualityImageView) : Prop :=
  construct image.encoding image.width image.height image.pixels = .ok image

/-- Within the ceilings, with as many bytes as its pixels take. -/
structure Packed (image : QualityImageView) : Prop where
  pixels : image.width.toNat * image.height.toNat ≤ ABSOLUTE_MAX_IMAGE_PIXELS
  length : image.pixels.length =
    image.width.toNat * image.height.toNat * channels image.encoding

theorem layout_of_ok {width height : UInt32} {actualBytes channels : Nat}
    (valid : validateImageLayout width height actualBytes channels = .ok ()) :
    width.toNat * height.toNat ≤ ABSOLUTE_MAX_IMAGE_PIXELS ∧
      actualBytes = width.toNat * height.toNat * channels := by
  simp only [validateImageLayout, check_bind_eq_ok_iff, require_eq_ok_iff] at valid
  exact ⟨valid.2.2.1, valid.2.2.2.2⟩

theorem Constructed.packed {image : QualityImageView} (made : image.Constructed) :
    image.Packed := by
  obtain ⟨width, height, encoding, pixels⟩ := image
  unfold Constructed at made
  cases encoding with
  | gray8 =>
      simp only [construct, gray8, check_bind_eq_ok_iff] at made
      obtain ⟨ceiling, length⟩ := layout_of_ok made.1
      exact ⟨ceiling, length⟩
  | rgb8 =>
      simp only [construct, rgb8, check_bind_eq_ok_iff] at made
      obtain ⟨ceiling, length⟩ := layout_of_ok made.1
      exact ⟨ceiling, length⟩
  | yuyv =>
      simp only [construct, yuyv, check_bind_eq_ok_iff] at made
      obtain ⟨ceiling, length⟩ := layout_of_ok made.2.1
      exact ⟨ceiling, length⟩

end QualityImageView

namespace Quality

open Machine QualityImageView

/-! ## Reads -/

section

variable {image : QualityImageView} {x y : Nat}

/-- The bound on pixels as a number. -/
theorem ceiling_literal : ABSOLUTE_MAX_IMAGE_PIXELS = 16_777_216 := rfl

/-- The bound of 64 bits as a number. -/
theorem U64_literal : U64_MAX = 18_446_744_073_709_551_615 := rfl

/-- The bound of 32 bits as a number. -/
theorem U32_literal : U32_LIMIT = 4_294_967_295 := rfl

/-- The bound of signed 32 bits as a number. -/
theorem I32_literal : I32_LIMIT = 2_147_483_647 := rfl

/-- A byte in bounds is read. -/
theorem byteAt_ok {index : Nat} (inside : index < image.pixels.length)
    (fits : index ≤ U64_MAX) : byteAt image index = .ok image.pixels[index] := by
  rw [byteAt, unsigned_eq fits, ok_bind, item_eq (List.getElem?_eq_getElem inside)]

/-- The number of a pixel, and the number of pixels. -/
theorem pixel_lt {width height : Nat} (column : x < width) (row : y < height) :
    y * width + x < width * height := by
  calc y * width + x < (y + 1) * width := by
        rw [Nat.add_mul, Nat.one_mul]
        omega
    _ ≤ height * width := Nat.mul_le_mul_right _ row
    _ = width * height := Nat.mul_comm _ _

/-- Every pixel of a packed image has its luma. -/
theorem luma_ok (packed : image.Packed) (column : x < image.width.toNat)
    (row : y < image.height.toNat) : ∃ value, luma image x y = .ok value := by
  have pixel := pixel_lt column row
  have ceiling := packed.pixels
  have length := packed.length
  have limit := U64_literal
  have limit' := U32_literal
  rw [ceiling_literal] at ceiling
  generalize pixels : image.width.toNat * image.height.toNat = count at *
  unfold luma
  rw [unsigned_eq (by omega), ok_bind, unsigned_eq (by omega), ok_bind]
  cases encoding : image.encoding with
  | gray8 =>
      rw [encoding, channels] at length
      exact ⟨_, byteAt_ok (by omega) (by omega)⟩
  | rgb8 =>
      rw [encoding, channels] at length
      dsimp only
      rw [byteAt_ok (by omega) (by omega), ok_bind, byteAt_ok (by omega) (by omega), ok_bind,
        byteAt_ok (by omega) (by omega), ok_bind]
      generalize image.pixels[(y * image.width.toNat + x) * 3] = red
      generalize image.pixels[(y * image.width.toNat + x) * 3 + 1] = green
      generalize image.pixels[(y * image.width.toNat + x) * 3 + 2] = blue
      have first := red.toNat_lt
      have second := green.toNat_lt
      have third := blue.toNat_lt
      rw [unsigned_eq (by omega), ok_bind, narrowOr, ok_bind]
      exact ⟨_, rfl⟩
  | yuyv =>
      rw [encoding, channels] at length
      exact ⟨_, byteAt_ok (by omega) (by omega)⟩

/-- Every interior pixel has its Laplacian. -/
theorem laplacian_ok (packed : image.Packed) (left : 0 < x) (right : x + 1 < image.width.toNat)
    (top : 0 < y) (bottom : y + 1 < image.height.toNat) :
    ∃ value, laplacian image x y = .ok value := by
  have limit := I32_literal
  have columns : image.width.toNat < 2 ^ 32 := image.width.toNat_lt
  have rows : image.height.toNat < 2 ^ 32 := image.height.toNat_lt
  have limit' := U64_literal
  obtain ⟨center, known⟩ := luma_ok packed (x := x) (y := y) (by omega) (by omega)
  obtain ⟨before, leftKnown⟩ := luma_ok packed (x := x - 1) (y := y) (by omega) (by omega)
  obtain ⟨after, rightKnown⟩ := luma_ok packed (x := x + 1) (y := y) (by omega) (by omega)
  obtain ⟨upper, topKnown⟩ := luma_ok packed (x := x) (y := y - 1) (by omega) (by omega)
  obtain ⟨lower, bottomKnown⟩ := luma_ok packed (x := x) (y := y + 1) (by omega) (by omega)
  have first := center.toNat_lt
  have second := before.toNat_lt
  have third := after.toNat_lt
  have fourth := upper.toNat_lt
  have fifth := lower.toNat_lt
  refine ⟨4 * center.toNat - before.toNat - after.toNat - upper.toNat - lower.toNat, ?_⟩
  rw [laplacian, known, ok_bind, signed_eq (by omega) (by omega), ok_bind, subtract_eq left,
    ok_bind, leftKnown, ok_bind, signed_eq (by omega) (by omega), ok_bind,
    unsigned_eq (by omega), ok_bind, rightKnown, ok_bind, signed_eq (by omega) (by omega),
    ok_bind, subtract_eq top, ok_bind, topKnown, ok_bind, signed_eq (by omega) (by omega),
    ok_bind, unsigned_eq (by omega), ok_bind, bottomKnown, ok_bind,
    signed_eq (by omega) (by omega)]

end

/-! ## Passes -/

/-- The cancellation that some poll asks for. -/
def Interrupted (cancelled : Nat → Bool) (error : QualityError) : Prop :=
  error = .cancelled ∧ ∃ poll, cancelled poll = true

section

variable {Collected : Type} {cancelled : Nat → Bool}
  {visit : Collected → Nat → Nat → Machine QualityError Collected}

/-- Asking for a cancellation fails with it only. -/
theorem checkCancelled_sound (polls : Nat) :
    Sound (Interrupted cancelled) (fun _ => True) (checkCancelled cancelled polls) := by
  have asked : Sound (Interrupted cancelled) (fun _ => True)
      (lift (require (cancelled polls = false) .cancelled)) := by
    apply Sound.lift
    · exact fun _ _ => trivial
    · intro error refused
      rw [require_eq_error_iff] at refused
      exact ⟨refused.2.symm, polls, by simpa using refused.1⟩
  exact Sound.bind asked fun _ _ => trivial

/-- Polling collects nothing and sets up the next poll. -/
theorem poll_sound (pass : Pass Collected) :
    Sound (Interrupted cancelled)
      (fun polled => polled.collected = pass.collected ∧ 0 < polled.untilCancelCheck)
      (pass.poll cancelled) := by
  unfold Pass.poll
  split
  · apply Sound.bind (checkCancelled_sound pass.polls)
    exact fun _ _ => ⟨rfl, Nat.succ_pos _⟩
  · next waiting => exact ⟨rfl, Nat.pos_of_ne_zero waiting⟩

/-- A visit keeps what its step keeps. -/
theorem visitPixel_sound {good : Collected → Prop} {pass : Pass Collected} {x y : Nat}
    (visited : Sound (Interrupted cancelled) good (visit pass.collected x y)) :
    Sound (Interrupted cancelled) (fun next => good next.collected)
      (visitPixel cancelled visit y pass x) := by
  apply Sound.bind (poll_sound pass)
  rintro polled ⟨same, waiting⟩
  rw [subtract_eq (by omega), ok_bind, same]
  exact Sound.bind visited fun _ kept => kept

/-- A pass whose visits keep an invariant of the number of pixels so far. -/
theorem scanPixels_sound (invariant : Nat → Collected → Prop) {rows columns : List Nat}
    {start : Collected} (holds : invariant 0 start)
    (visits : ∀ count collected, count < rows.length * columns.length →
      invariant count collected → ∀ x ∈ columns, ∀ y ∈ rows,
      Sound (Interrupted cancelled) (invariant (count + 1)) (visit collected x y)) (polls : Nat) :
    Sound (Interrupted cancelled)
      (fun result => invariant (rows.length * columns.length) result.1)
      (scanPixels cancelled visit rows (.ok columns) start polls) := by
  have passed := @Sound.foldlM _ (Interrupted cancelled) (Pass Collected) Nat
    (fun pass y => columns.foldlM (visitPixel cancelled visit y) pass) rows ⟨start, 0, polls⟩
    (fun row pass => invariant (row * columns.length) pass.collected) 0
    (by rw [Nat.zero_mul]; exact holds) (by
      intro row pass below kept y known
      rw [Nat.zero_add] at kept ⊢
      have across := @Sound.foldlM _ (Interrupted cancelled) (Pass Collected) Nat
        (visitPixel cancelled visit y) columns pass
        (fun count pass => invariant count pass.collected) (row * columns.length) kept (by
          intro column pass below' kept x member
          apply visitPixel_sound
          apply visits _ _ _ kept x member y known
          calc row * columns.length + column < (row + 1) * columns.length := by
                rw [Nat.add_mul, Nat.one_mul]
                omega
            _ ≤ rows.length * columns.length := Nat.mul_le_mul_right _ below)
      rw [Nat.add_mul, Nat.one_mul]
      exact across)
  rw [Nat.zero_add] at passed
  exact Sound.bind passed fun _ kept => kept

end

/-! ## Histograms -/

/-- One pixel more in one bin. -/
theorem sum_set_succ {histogram : List Nat} {level frequency : Nat}
    (known : histogram[level]? = some frequency) :
    (histogram.set level (frequency + 1)).sum = histogram.sum + 1 := by
  induction histogram generalizing level with
  | nil => cases known
  | cons first rest ih =>
      cases level with
      | zero =>
          obtain rfl := Option.some.inj known
          rw [List.set_cons_zero, List.sum_cons, List.sum_cons]
          omega
      | succ level =>
          rw [List.set_cons_succ, List.sum_cons, List.sum_cons, ih known]
          omega

/-- The statistics of so many pixels. -/
structure LumaStatistics.Counts (count : Nat) (statistics : LumaStatistics) : Prop where
  levels : statistics.histogram.length = LUMA_LEVELS
  total : statistics.histogram.sum = count
  pixels : statistics.pixelCount = count
  luma : statistics.lumaSum ≤ count * 255

/-- Empty statistics count nothing. -/
theorem LumaStatistics.empty_counts : LumaStatistics.empty.Counts 0 where
  levels := List.length_replicate
  total := by simp [LumaStatistics.empty]
  pixels := rfl
  luma := Nat.zero_le _

/-- A visit counts one pixel more. -/
theorem LumaStatistics.visit_counts {reported : QualityError → Prop} {image : QualityImageView}
    {x y count : Nat} (packed : image.Packed) (column : x < image.width.toNat)
    (row : y < image.height.toNat) (below : count < ABSOLUTE_MAX_IMAGE_PIXELS)
    {statistics : LumaStatistics} (counts : statistics.Counts count) :
    Sound reported (LumaStatistics.Counts (count + 1))
      (LumaStatistics.visit image statistics x y) := by
  have limit := U32_literal
  have levels := counts.levels
  have luma := counts.luma
  have pixels := counts.pixels
  obtain ⟨value, read⟩ := luma_ok packed column row
  have level : value.toNat < statistics.histogram.length := by
    rw [levels]
    exact value.toNat_lt
  have known := List.getElem?_eq_getElem level
  have frequency : statistics.histogram[value.toNat] ≤ count := by
    rw [← counts.total]
    exact List.le_sum_of_mem (List.getElem_mem level)
  generalize statistics.histogram[value.toNat] = seen at known frequency
  have bounded := value.toNat_lt
  rw [ceiling_literal] at below
  rw [LumaStatistics.visit, read, ok_bind, item_eq known, ok_bind, unsigned_eq (by omega),
    ok_bind, unsigned_eq (by omega), ok_bind, unsigned_eq (by omega), ok_bind]
  refine ⟨?_, ?_, ?_, ?_⟩
  · rw [List.length_set, levels]
  · rw [sum_set_succ known, counts.total]
  · exact congrArg (· + 1) pixels
  · dsimp only
    omega

/-- A range has as many numbers as its ends are apart. -/
theorem length_range (first last : Nat) : (range first last).length = last - first :=
  List.length_range'

/-- Its numbers are between its ends. -/
theorem mem_range {first last value : Nat} (member : value ∈ range first last) :
    first ≤ value ∧ value < last := by
  rw [range, List.mem_range'_1] at member
  omega

/-- A region is no larger than its image may be. -/
theorem area_le {image : QualityImageView} {region : PixelRegion} (packed : image.Packed)
    (inside : region.Inside image) : region.height * region.width ≤ ABSOLUTE_MAX_IMAGE_PIXELS := by
  have right := inside.right
  have bottom := inside.bottom
  unfold PixelRegion.height PixelRegion.width
  calc (region.yEnd - region.yStart) * (region.xEnd - region.xStart)
      ≤ image.height.toNat * image.width.toNat := Nat.mul_le_mul (by omega) (by omega)
    _ = image.width.toNat * image.height.toNat := Nat.mul_comm _ _
    _ ≤ ABSOLUTE_MAX_IMAGE_PIXELS := packed.pixels

/-- A pass over the luma counts each pixel of its region once. -/
theorem scanLuma_sound {image : QualityImageView} {region : PixelRegion}
    {cancelled : Nat → Bool} (packed : image.Packed) (inside : region.Inside image) (polls : Nat) :
    Sound (Interrupted cancelled)
      (fun result => result.1.Counts (region.height * region.width))
      (scanLuma cancelled image region polls) := by
  have right := inside.right
  have bottom := inside.bottom
  have area := area_le packed inside
  have passed := @scanPixels_sound LumaStatistics cancelled (LumaStatistics.visit image)
    LumaStatistics.Counts (range region.yStart region.yEnd) (range region.xStart region.xEnd)
    .empty LumaStatistics.empty_counts (by
      intro count statistics below counts x column y row
      rw [length_range, length_range] at below
      have column := mem_range column
      have row := mem_range row
      exact LumaStatistics.visit_counts packed (by omega) (by omega)
        (Nat.lt_of_lt_of_le below area) counts) polls
  rw [length_range, length_range] at passed
  exact passed

/-! ## The Laplacian pass -/

/-- The interior of a wide range is taken without overflow. -/
theorem interior_eq {first last : Nat} (wide : first + 3 ≤ last) (fits : last ≤ U64_MAX) :
    interior first last = .ok (range (first + 1) (last - 1)) := by
  rw [interior, unsigned_eq (by omega), ok_bind, subtract_eq (by omega), ok_bind]
  rfl

/-- Dividing by something other than zero. -/
theorem quotient_eq {value : Float} {count : Nat} (some : count ≠ 0) :
    quotient value count = .ok (value / Float.ofNat count) := if_neg some

/-- A visit counts one value more. -/
theorem Moments.visit_counts {reported : QualityError → Prop} {image : QualityImageView}
    {x y count : Nat} (packed : image.Packed) (left : 0 < x) (right : x + 1 < image.width.toNat)
    (top : 0 < y) (bottom : y + 1 < image.height.toNat) (below : count < U32_LIMIT)
    {moments : Moments} (counts : moments.count = count) :
    Sound reported (fun moments => moments.count = count + 1)
      (Moments.visit image moments x y) := by
  obtain ⟨value, read⟩ := laplacian_ok packed left right top bottom
  rw [Moments.visit, read, ok_bind, counts, unsigned_eq below, ok_bind]
  dsimp only
  rw [quotient_eq (Nat.succ_ne_zero _), ok_bind]
  rfl

/-- An error of a scan: it was cancelled, or its arithmetic left the finite numbers. -/
def ScanError (cancelled : Nat → Bool) (error : QualityError) : Prop :=
  Interrupted cancelled error ∨ error = .invalidComputation

/-- A pass over the Laplacian finds a pixel with all of its neighbours in the region. -/
theorem scanLaplacian_sound {image : QualityImageView} {region : PixelRegion}
    {cancelled : Nat → Bool} (packed : image.Packed) (inside : region.Inside image)
    (wide : 3 ≤ region.width) (high : 3 ≤ region.height) (polls : Nat) :
    Sound (ScanError cancelled) (fun _ => True) (scanLaplacian cancelled image region polls) := by
  have right := inside.right
  have bottom := inside.bottom
  have columns : image.width.toNat < 2 ^ 32 := image.width.toNat_lt
  have rows : image.height.toNat < 2 ^ 32 := image.height.toNat_lt
  have limit := U64_literal
  have limit' := U32_literal
  have area := area_le packed inside
  rw [ceiling_literal] at area
  unfold PixelRegion.width at wide area
  unfold PixelRegion.height at high area
  have smaller : (region.yEnd - 1 - (region.yStart + 1)) * (region.xEnd - 1 - (region.xStart + 1)) ≤
      (region.yEnd - region.yStart) * (region.xEnd - region.xStart) :=
    Nat.mul_le_mul (by omega) (by omega)
  have passed := @scanPixels_sound Moments cancelled (Moments.visit image)
    (fun count moments => moments.count = count) (range (region.yStart + 1) (region.yEnd - 1))
    (range (region.xStart + 1) (region.xEnd - 1)) .empty rfl (by
      intro count moments below counts x column y row
      rw [length_range, length_range] at below
      have column := mem_range column
      have row := mem_range row
      exact Moments.visit_counts packed (by omega) (by omega) (by omega) (by omega) (by omega)
        counts) polls
  rw [length_range, length_range] at passed
  rw [scanLaplacian, interior_eq (by omega) (by omega), ok_bind,
    interior_eq (by omega) (by omega)]
  apply Sound.bind (passed.mono (fun _ => Or.inl) fun _ => id)
  rintro ⟨moments, polls'⟩ counted
  have some : moments.count ≠ 0 := by
    dsimp only at counted
    rw [counted]
    exact (Nat.mul_pos (by omega) (by omega)).ne'
  dsimp only
  have placed : require (moments.count ≠ 0)
      (QualityError.faceRegionTooSmall region.width region.height) = .ok () :=
    require_eq_ok_iff.mpr some
  rw [lift_eq placed, ok_bind, quotient_eq some, ok_bind]
  have finite : Sound (ScanError cancelled) (fun _ => True)
      (lift (require ((moments.sumSquaredDeviation / Float.ofNat moments.count).isFinite = true ∧
        0.0 ≤ moments.sumSquaredDeviation / Float.ofNat moments.count) .invalidComputation)) := by
    apply Sound.lift
    · exact fun _ _ => trivial
    · intro error refused
      rw [require_eq_error_iff] at refused
      exact .inr refused.2.symm
  exact Sound.bind finite fun _ _ => trivial

/-! ## Percentiles and clipping -/

section

variable {reported : QualityError → Prop} {histogram : List Nat}

/-- The loop over the bins ends with a level. -/
theorem levelAbove_sound {targetRank value cumulative : Nat}
    (fits : cumulative + histogram.sum ≤ U32_LIMIT) :
    Sound reported (fun level => level ≤ 255)
      (levelAbove targetRank value cumulative histogram) := by
  induction histogram generalizing value cumulative with
  | nil => exact Nat.le_refl 255
  | cons frequency rest ih =>
      rw [List.sum_cons] at fits
      rw [levelAbove, unsigned_eq (by omega), ok_bind]
      split
      · rw [narrowOr, Int.toNat_natCast]
        change (if _ then value else 255) ≤ 255
        split
        · next inside => omega
        · exact Nat.le_refl 255
      · exact ih (by omega)

/-- A percentile is a level. -/
theorem histogramPercentile_sound {count percentile : Nat} (fits : histogram.sum ≤ U32_LIMIT)
    (rank : (count - 1) * percentile ≤ U32_LIMIT) :
    Sound reported (fun level => level ≤ 255) (histogramPercentile histogram count percentile) := by
  rw [histogramPercentile, unsigned_eq rank, ok_bind]
  exact levelAbove_sound (by omega)

/-- The pixels between two levels are counted without overflow. -/
theorem histogramCountInclusive_eq {first last : Nat} (order : first ≤ last + 1)
    (inside : last < histogram.length) (fits : histogram.sum ≤ U32_LIMIT) :
    histogramCountInclusive histogram first last =
      .ok ((histogram.take (last + 1)).drop first).sum := by
  have added : ∀ (items : List Nat) (total : Nat), total + items.sum ≤ U32_LIMIT →
      items.foldlM (fun total frequency => (unsigned U32_LIMIT (total + frequency) :
        Machine QualityError Nat)) total = .ok (total + items.sum) := by
    intro items
    induction items with
    | nil => exact fun total _ => rfl
    | cons item rest ih =>
        intro total fits
        rw [List.sum_cons] at fits ⊢
        rw [List.foldlM_cons, unsigned_eq (by omega), ok_bind, ih _ (by omega), Nat.add_assoc]
  have below : ((histogram.take (last + 1)).drop first).sum ≤ histogram.sum :=
    ((List.drop_sublist ..).trans (List.take_sublist ..)).sum_le_sum fun _ _ => Nat.zero_le _
  rw [histogramCountInclusive, sliceInclusive, if_pos ⟨order, inside⟩, ok_bind,
    added _ 0 (by omega), Nat.zero_add]

/-- Dark and bright pixels are different ones. -/
theorem clippedPixels_ok {config : QualityConfig} (levels : histogram.length = LUMA_LEVELS)
    (apart : config.darkClipAtOrBelow < config.brightClipAtOrAbove)
    (bright : config.brightClipAtOrAbove ≤ 255) (fits : histogram.sum ≤ U32_LIMIT) :
    ∃ clipped, clippedPixels histogram config = .ok clipped ∧ clipped ≤ histogram.sum := by
  have length : histogram.length = 256 := levels
  have disjoint : ((histogram.take (config.darkClipAtOrBelow + 1)).drop 0).sum +
      ((histogram.take (255 + 1)).drop config.brightClipAtOrAbove).sum ≤ histogram.sum := by
    rw [List.drop_zero, List.take_of_length_le length.le]
    have later : (histogram.drop config.brightClipAtOrAbove).sum ≤
        (histogram.drop (config.darkClipAtOrBelow + 1)).sum :=
      (List.drop_sublist_drop_left histogram apart).sum_le_sum fun _ _ => Nat.zero_le _
    have parts := congrArg List.sum
      (List.take_append_drop (config.darkClipAtOrBelow + 1) histogram)
    rw [List.sum_append] at parts
    omega
  refine ⟨_, ?_, disjoint⟩
  rw [clippedPixels, histogramCountInclusive_eq (by omega) (by omega) fits, ok_bind,
    histogramCountInclusive_eq (by omega) (by omega) fits, ok_bind, unsigned_eq (by omega)]

end

/-! ## Admitted regions -/

/-- A region that an assessment goes on to scan. The clipping levels are bytes. -/
structure Admitted (image : QualityImageView) (config : QualityConfig) (region : PixelRegion) :
    Prop where
  constructed : image.Constructed
  valid : config.validate = .ok ()
  bright : config.brightClipAtOrAbove ≤ 255
  inside : region.Inside image
  wide : config.minimumFaceWidthPixels ≤ region.width
  high : config.minimumFaceHeightPixels ≤ region.height

section

variable {image : QualityImageView} {config : QualityConfig} {region : PixelRegion}

/-- An admitted region is wide and high enough for an interior. -/
theorem Admitted.minimum (admitted : Admitted image config region) :
    3 ≤ region.width ∧ 3 ≤ region.height := by
  have valid := admitted.valid
  have wide := admitted.wide
  have high := admitted.high
  rw [QualityConfig.validate, require_eq_ok_iff] at valid
  obtain ⟨⟨-, ⟨width, -⟩, ⟨height, -⟩, -⟩, -⟩ := valid
  exact ⟨width.trans wide, height.trans high⟩

/-- The percentiles and clips of a valid configuration are in order. -/
theorem percentiles_le (valid : config.validate = .ok ()) :
    config.lowPercentile ≤ 99 ∧ config.highPercentile ≤ 99 ∧
      config.darkClipAtOrBelow < config.brightClipAtOrAbove := by
  rw [QualityConfig.validate, require_eq_ok_iff] at valid
  obtain ⟨-, ⟨⟨-, low⟩, ⟨-, high⟩, -, -, apart, -⟩, -⟩ := valid
  exact ⟨by omega, high, apart⟩

/-- What the statistics of an admitted region promise to the rest of an assessment. -/
structure Accounted (region : PixelRegion) (config : QualityConfig)
    (statistics : LumaStatistics) : Prop where
  levels : statistics.histogram.length = LUMA_LEVELS
  total : statistics.histogram.sum = statistics.pixelCount
  area : statistics.pixelCount = region.width * region.height
  some : 0 < statistics.pixelCount
  pixels : statistics.pixelCount ≤ U32_LIMIT
  luma : statistics.lumaSum ≤ U32_LIMIT
  lowRank : (statistics.pixelCount - 1) * config.lowPercentile ≤ U32_LIMIT
  highRank : (statistics.pixelCount - 1) * config.highPercentile ≤ U32_LIMIT
  clipped : ∃ clipped, clippedPixels statistics.histogram config = .ok clipped ∧
    clipped ≤ statistics.pixelCount

/-- The statistics of an admitted region account for its pixels. -/
theorem Admitted.accounted (admitted : Admitted image config region) {statistics : LumaStatistics}
    (counts : statistics.Counts (region.height * region.width)) :
    Accounted region config statistics := by
  obtain ⟨low, high, apart⟩ := percentiles_le admitted.valid
  obtain ⟨wide, tall⟩ := admitted.minimum
  have area := area_le admitted.constructed.packed admitted.inside
  rw [ceiling_literal] at area
  have limit := U32_literal
  have some := Nat.mul_pos (show 0 < region.height by omega) (show 0 < region.width by omega)
  have ranks : ∀ percentile ≤ 99, (statistics.pixelCount - 1) * percentile ≤ U32_LIMIT := by
    intro percentile below
    have pixels := counts.pixels
    calc (statistics.pixelCount - 1) * percentile ≤ 16_777_216 * 99 :=
          Nat.mul_le_mul (by omega) below
      _ ≤ U32_LIMIT := by omega
  have luma := counts.luma
  have total := counts.total
  have pixels := counts.pixels
  refine ⟨counts.levels, total.trans pixels.symm, pixels.trans (Nat.mul_comm _ _), by omega,
    by omega, by omega, ranks _ low, ranks _ high, ?_⟩
  rw [pixels, ← total]
  exact clippedPixels_ok counts.levels apart admitted.bright (by omega)

/-- A step that fails in one way is sound. -/
theorem lift_sound {Value : Type} {cancelled : Nat → Bool} {step : Except QualityError Value}
    (errors : ∀ error, step = .error error → error = .invalidComputation) :
    Sound (ScanError cancelled) (fun _ => True) (lift step) :=
  Sound.lift (fun _ _ => trivial) fun error refused => .inr (errors error refused)

/-- Narrowing fails in one way only. -/
theorem boundedF64ToF32_error {value : Float} {error : QualityError}
    (refused : boundedF64ToF32 value = .error error) : error = .invalidComputation := by
  rw [boundedF64ToF32, require_bind_eq_error_iff] at refused
  rcases refused with ⟨-, same⟩ | ⟨-, later⟩
  · exact same.symm
  · cases later

/-- Aggregating fails in one way only. -/
theorem conservativeAggregate_error {components weights : QualityComponents Float32}
    {headroom : Float32} {error : QualityError}
    (refused : conservativeAggregate floating components weights headroom = .error error) :
    error = .invalidComputation := by
  unfold conservativeAggregate at refused
  dsimp only at refused
  split at refused
  · cases refused
  · rw [require_bind_eq_error_iff, bind_eq_error_iff] at refused
    rcases refused with ⟨-, same⟩ | ⟨-, narrowed | ⟨value, -, later⟩⟩
    · exact same.symm
    · exact boundedF64ToF32_error narrowed
    · cases later

/-- Reporting fails in one way only. -/
theorem report_error {measurements : QualityMeasurements} {geometry : FaceGeometry}
    {error : QualityError} (refused : measurements.report geometry config = .error error) :
    error = .invalidComputation := by
  unfold QualityMeasurements.report at refused
  dsimp only at refused
  rw [bind_eq_error_iff] at refused
  rcases refused with aggregated | ⟨aggregate, -, later⟩
  · exact conservativeAggregate_error aggregated
  · rw [require_bind_eq_error_iff] at later
    rcases later with ⟨-, same⟩ | ⟨-, later⟩
    · exact same.symm
    · cases later

/-- The first pass accounts for the region, or is interrupted. -/
theorem Admitted.lumaPass (admitted : Admitted image config region) (cancelled : Nat → Bool)
    (polls : Nat) :
    Sound (Interrupted cancelled) (fun result => Accounted region config result.1)
      (scanLuma cancelled image region polls) :=
  (scanLuma_sound admitted.constructed.packed admitted.inside polls).mono (fun _ => id)
    fun _ => admitted.accounted

/-- The second pass fails in expected ways only. -/
theorem Admitted.laplacianPass (admitted : Admitted image config region)
    (cancelled : Nat → Bool) (polls : Nat) :
    Sound (ScanError cancelled) (fun _ => True) (scanLaplacian cancelled image region polls) :=
  scanLaplacian_sound admitted.constructed.packed admitted.inside admitted.minimum.1
    admitted.minimum.2 polls

/-- Measuring an admitted region fails in expected ways only. -/
theorem measureRegion_sound (admitted : Admitted image config region) (cancelled : Nat → Bool)
    (polls : Nat) (geometry : FaceGeometry) :
    Sound (ScanError cancelled) (fun _ => True)
      (measureRegion cancelled image region geometry config polls) := by
  apply Sound.bind ((admitted.lumaPass cancelled polls).mono (fun _ => Or.inl) fun _ => id)
  rintro ⟨statistics, polls⟩ accounted
  apply Sound.bind (admitted.laplacianPass cancelled polls)
  rintro ⟨variance, polls⟩ -
  apply Sound.bind ((checkCancelled_sound polls).mono (fun _ => Or.inl) fun _ => id)
  rintro polls -
  have sum : statistics.histogram.sum ≤ U32_LIMIT := accounted.total.le.trans accounted.pixels
  apply Sound.bind (histogramPercentile_sound sum accounted.lowRank)
  rintro lowLuma -
  apply Sound.bind (histogramPercentile_sound sum accounted.highRank)
  rintro highLuma -
  obtain ⟨clipped, counted, -⟩ := accounted.clipped
  dsimp only at counted ⊢
  have some := accounted.some.ne'
  rw [quotient_eq some, ok_bind, counted, ok_bind, quotient_eq some, ok_bind]
  apply Sound.bind (lift_sound fun _ => boundedF64ToF32_error)
  rintro meanLuma -
  apply Sound.bind (lift_sound fun _ => boundedF64ToF32_error)
  rintro clippedFraction -
  apply Sound.bind (lift_sound fun _ => boundedF64ToF32_error)
  rintro variance -
  exact lift_sound fun _ => report_error

/-- A coordinate is within its extent. -/
theorem boundedCoordinateToUsize_le {value : Float} {dimension : UInt32} {coordinate : Nat}
    (bounded : boundedCoordinateToUsize value dimension = .ok coordinate) :
    coordinate ≤ dimension.toNat := by
  rw [boundedCoordinateToUsize, check_bind_eq_ok_iff, require_eq_ok_iff] at bounded
  obtain ⟨⟨finite, -, below⟩, same⟩ := bounded
  obtain rfl := Except.ok.inj same
  exact toUInt64_le finite (exactlyDouble_le finite below)

/-- The region of a face lies in its image. -/
theorem fromGeometry_inside {geometry : FaceGeometry}
    (located : fromGeometry image.width image.height geometry = .ok region) :
    region.Inside image := by
  simp only [fromGeometry, bind_eq_ok_iff, require_eq_ok_iff] at located
  obtain ⟨xStart, -, xEnd, right, yStart, -, yEnd, bottom, -, ⟨columns, rows⟩, same⟩ := located
  obtain rfl := Except.ok.inj same
  exact ⟨columns, boundedCoordinateToUsize_le right, rows, boundedCoordinateToUsize_le bottom⟩

/-- An assessment has no faults, whatever the image, the face and the configuration. -/
theorem assessCancellable_sound (constructed : image.Constructed)
    (bright : config.brightClipAtOrAbove ≤ 255) (cancelled : Nat → Bool)
    (geometry : FaceGeometry) :
    Sound (fun _ => True) (fun _ => True)
      (assessCancellable cancelled image geometry config) := by
  apply Sound.bind ((checkCancelled_sound 0).mono (fun _ _ => trivial) fun _ => id)
  rintro polls -
  apply Sound.bind (Sound.lift (fun _ valid => valid) fun _ _ => trivial)
  intro _ valid
  apply Sound.bind (Sound.lift (fun _ _ => trivial) fun _ _ => trivial)
  rintro _ -
  apply Sound.bind (Sound.lift (fun _ _ => trivial) fun _ _ => trivial)
  rintro _ -
  apply Sound.bind (Sound.lift (fun _ _ => trivial) fun _ _ => trivial)
  rintro _ -
  apply Sound.bind (Sound.lift (fun _ located => located) fun _ _ => trivial)
  intro region located
  apply Sound.bind (Sound.lift (fun _ large => require_eq_ok_iff.mp large) fun _ _ => trivial)
  rintro _ ⟨wide, high⟩
  have admitted : Admitted image config region :=
    ⟨constructed, valid, bright, fromGeometry_inside located, wide, high⟩
  exact (measureRegion_sound admitted cancelled polls geometry).mono (fun _ _ => trivial)
    fun _ => id

/-- The measurement by the pixels of a face, for an image that its constructor accepts. -/
def pixelMeasurement (cancelled : Nat → Bool) : FaceMeasurement where
  poll := require (cancelled 0 = false) .cancelled
  fromGeometry := fromGeometry
  scan image region geometry config :=
    match measureRegion cancelled image region geometry config 1 with
    | .ok report => .ok report.aggregate
    | .error (.error error) => .error error
    | .error (.fault _) => .error .invalidComputation

/-- The aggregate of a report is what the assessment by pixels gives. -/
theorem assessCancellable_pixelMeasurement {cancelled : Nat → Bool} {geometry : FaceGeometry}
    {report : QualityReport}
    (assessed : assessCancellable cancelled image geometry config = .ok report) :
    FaceAuth.assessCancellable (pixelMeasurement cancelled) image geometry config =
      .ok report.aggregate := by
  simp only [assessCancellable, checkCancelled, bind_eq_ok_iff, lift_eq_ok_iff] at assessed
  obtain ⟨polls, ⟨_, polled, same⟩, _, valid, _, placed, _, representable, _, pixels, region,
    located, _, large, measured⟩ := assessed
  obtain rfl := Except.ok.inj same
  simp only [FaceAuth.assessCancellable, bind_eq_ok_iff]
  refine ⟨(), polled, (), valid, (), placed, (), representable, (), pixels, region, located, (),
    large, ?_⟩
  simp only [pixelMeasurement, measured]

/-- Everything that an assessment computes of an admitted region is safe. -/
theorem measureRegion_safe (admitted : Admitted image config region) (cancelled : Nat → Bool)
    (polls : Nat) (geometry : FaceGeometry) :
    (∀ x y, region.xStart ≤ x → x < region.xEnd → region.yStart ≤ y → y < region.yEnd →
      ∃ value, luma image x y = .ok value) ∧
    (∃ rows columns, interior region.yStart region.yEnd = .ok rows ∧
      interior region.xStart region.xEnd = .ok columns ∧ rows ≠ [] ∧ columns ≠ [] ∧
      ∀ x ∈ columns, ∀ y ∈ rows, ∃ value, laplacian image x y = .ok value) ∧
    Sound (Interrupted cancelled) (fun result => Accounted region config result.1)
      (scanLuma cancelled image region polls) ∧
    Sound (ScanError cancelled) (fun _ => True) (scanLaplacian cancelled image region polls) ∧
    Sound (ScanError cancelled) (fun _ => True)
      (measureRegion cancelled image region geometry config polls) := by
  have packed := admitted.constructed.packed
  obtain ⟨wide, high⟩ := admitted.minimum
  have limit := U64_literal
  have columns : image.width.toNat < 2 ^ 32 := image.width.toNat_lt
  have rows : image.height.toNat < 2 ^ 32 := image.height.toNat_lt
  have right := admitted.inside.right
  have bottom := admitted.inside.bottom
  refine ⟨?_, ?_, admitted.lumaPass cancelled polls, admitted.laplacianPass cancelled polls,
    measureRegion_sound admitted cancelled polls geometry⟩
  · intro x y _ column _ row
    exact luma_ok packed (by omega) (by omega)
  · unfold PixelRegion.width at wide
    unfold PixelRegion.height at high
    refine ⟨_, _, interior_eq (by omega) (by omega), interior_eq (by omega) (by omega),
      ?_, ?_, ?_⟩
    · apply List.ne_nil_of_length_pos
      rw [length_range]
      omega
    · apply List.ne_nil_of_length_pos
      rw [length_range]
      omega
    · intro x column y row
      have column := mem_range column
      have row := mem_range row
      exact laplacian_ok packed (by omega) (by omega) (by omega) (by omega)

/-- A configuration for faces of three pixels by three. -/
def tinyFaces : QualityConfig :=
  { QualityConfig.engineeringBaseline with
    minimumFaceWidthPixels := 3, minimumFaceHeightPixels := 3 }

/-- Nine pixels are counted. -/
theorem measureRegion_safe_tiny :
    ∃ result, scanLuma (fun _ => false) ⟨3, 3, .gray8, List.replicate 9 7⟩ ⟨0, 3, 0, 3⟩ 1 =
      .ok result ∧ result.1.histogram.sum = 9 := by
  have admitted : Admitted ⟨3, 3, .gray8, List.replicate 9 7⟩ tinyFaces ⟨0, 3, 0, 3⟩ :=
    ⟨rfl, by decide +kernel, by decide, ⟨by decide, by decide, by decide, by decide⟩, by decide,
      by decide⟩
  have passed := (measureRegion_safe admitted (fun _ => false) 1
    ⟨0.5, 0.5, 1.0, 1.0, 0.0, 0.0, 0.0, 1.0, 1.0⟩).2.2.1
  obtain ⟨result, scanned, accounted⟩ := passed.exists_ok fun error interrupted => by
    obtain ⟨-, poll, asked⟩ := interrupted
    cases asked
  exact ⟨result, scanned, accounted.total.trans accounted.area⟩

end

end Quality

end FaceAuth
