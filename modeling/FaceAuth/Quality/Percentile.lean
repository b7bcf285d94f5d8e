import FaceAuth.Foundation.OrderStatistic
import FaceAuth.Quality.ScanSafety

/-!
# Percentiles of luma

The histogram of a pass counts the luma of each pixel of its region. The loop over
its cumulative frequencies stops at the level that the sorted pixels have at the rank
of a percentile, and so it never falls through.
-/

namespace FaceAuth.Quality

open Foundation Machine

/-- The luma of pixels as numbers. -/
def levels (values : List UInt8) : List Nat := values.map UInt8.toNat

/-- The frequency of each luma level. -/
def histogramOf (values : List UInt8) : List Nat := histogram LUMA_LEVELS (levels values)

/-- The rank of a percentile among so many pixels. -/
def percentileRank (count percentile : Nat) : Nat := (count - 1) * percentile / 100

/-- The search for a level that ends as given when no level is found. -/
def levelAboveOr (fallen : Machine QualityError Nat) (targetRank value cumulative : Nat) :
    List Nat → Machine QualityError Nat
  | [] => fallen
  | frequency :: rest => do
      let cumulative ← unsigned U32_LIMIT (cumulative + frequency)
      if targetRank < cumulative then narrowOr 255 255 value
      else levelAboveOr fallen targetRank (value + 1) cumulative rest

/-- The percentile with another answer where the bins run out. -/
def histogramPercentileOr (fallen : Machine QualityError Nat) (histogram : List Nat)
    (count percentile : Nat) : Machine QualityError Nat := do
  let product ← unsigned U32_LIMIT ((count - 1) * percentile)
  levelAboveOr fallen (product / 100) 0 0 histogram

/-! ## Levels -/

/-- The loop over the bins, with its answer where they run out. -/
theorem levelAbove_eq_or (targetRank value cumulative : Nat) (histogram : List Nat) :
    levelAbove targetRank value cumulative histogram =
      levelAboveOr (.ok 255) targetRank value cumulative histogram := by
  induction histogram generalizing value cumulative with
  | nil => rfl
  | cons frequency rest ih =>
      rw [levelAbove, levelAboveOr]
      simp only [ih]

/-- The percentile, with its answer where the bins run out. -/
theorem histogramPercentile_eq_or (histogram : List Nat) (count percentile : Nat) :
    histogramPercentile histogram count percentile =
      histogramPercentileOr (.ok 255) histogram count percentile := by
  simp only [histogramPercentile, histogramPercentileOr, levelAbove_eq_or]

/-- The search ends at the level whose frequency takes the sum past the rank. -/
theorem levelAboveOr_eq {fallen : Machine QualityError Nat} {histogram : List Nat}
    {targetRank value cumulative level : Nat} (inside : level < histogram.length)
    (before : cumulative + (histogram.take level).sum ≤ targetRank)
    (after : targetRank < cumulative + (histogram.take (level + 1)).sum)
    (fits : cumulative + histogram.sum ≤ U32_LIMIT) (byte : value + level ≤ 255) :
    levelAboveOr fallen targetRank value cumulative histogram = .ok (value + level) := by
  induction histogram generalizing value cumulative level with
  | nil => cases inside
  | cons frequency rest ih =>
      rw [List.sum_cons] at fits
      rw [levelAboveOr, unsigned_eq (by omega), ok_bind]
      cases level with
      | zero =>
          rw [List.take_succ_cons, List.take_zero, List.sum_singleton] at after
          rw [if_pos after, converts_narrowOr (by omega) (by omega), Int.toNat_natCast,
            Nat.add_zero]
      | succ level =>
          rw [List.take_succ_cons, List.sum_cons, ← Nat.add_assoc] at before after
          rw [if_neg (by omega), ih (Nat.lt_of_succ_lt_succ inside) before after (by omega)
            (by omega), Nat.add_right_comm, Nat.add_assoc]

section

variable {values : List UInt8}

/-- There is a level for each pixel. -/
@[simp] theorem length_levels : (levels values).length = values.length := List.length_map _

/-- Levels are those of eight bits. -/
theorem levels_lt {level : Nat} (member : level ∈ levels values) : level < LUMA_LEVELS := by
  obtain ⟨value, -, rfl⟩ := List.mem_map.mp member
  exact value.toNat_lt

/-- The histogram counts every pixel. -/
theorem sum_histogramOf : (histogramOf values).sum = values.length := by
  rw [histogramOf, sum_histogram fun _ => levels_lt, length_levels]

/-- The rank of a percentile is that of a pixel. -/
theorem percentileRank_lt {count percentile : Nat} (occupied : 0 < count)
    (percent : percentile ≤ 100) : percentileRank count percentile < count := by
  have product : (count - 1) * percentile ≤ (count - 1) * 100 := Nat.mul_le_mul_left _ percent
  unfold percentileRank
  omega

/-- Higher percentiles have higher ranks. -/
theorem percentileRank_mono {count low high : Nat} (order : low ≤ high) :
    percentileRank count low ≤ percentileRank count high :=
  Nat.div_le_div_right (Nat.mul_le_mul_left _ order)

/-- The percentile is the item of its rank, however the search would fall through. -/
theorem histogramPercentileOr_eq {percentile level : Nat}
    (few : values.length ≤ ABSOLUTE_MAX_IMAGE_PIXELS) (percent : percentile ≤ 100)
    (known : orderStatistic (levels values) (percentileRank values.length percentile) =
      some level) (fallen : Machine QualityError Nat) :
    histogramPercentileOr fallen (histogramOf values) values.length percentile = .ok level := by
  rw [ceiling_literal] at few
  have limit := U32_literal
  have product : (values.length - 1) * percentile ≤ 16_777_216 * 100 :=
    Nat.mul_le_mul (by omega) percent
  have total := @sum_histogramOf values
  have inside : level < LUMA_LEVELS := levels_lt (mem_of_orderStatistic known)
  obtain ⟨before, after⟩ := sum_take_orderStatistic inside known
  have byte : level < 256 := inside
  rw [histogramPercentileOr, unsigned_eq (by omega), ok_bind,
    levelAboveOr_eq (by rw [histogramOf, length_histogram]; exact inside)
      (by rw [Nat.zero_add]; exact before) (by rw [Nat.zero_add]; exact after)
      (by omega) (by omega), Nat.zero_add]

end

/-! ## Passes over the luma -/

/-- The places of the pixels of a region, row by row. -/
def places (rows columns : List Nat) : List (Nat × Nat) :=
  rows.flatMap fun y => columns.map fun x => (x, y)

/-- The luma of the pixels of a region. -/
def lumas (image : QualityImageView) (region : PixelRegion) : Machine QualityError (List UInt8) :=
  (places (range region.yStart region.yEnd) (range region.xStart region.xEnd)).mapM
    fun place => luma image place.1 place.2

section

variable {Collected : Type} {cancelled : Nat → Bool}
  {visit : Collected → Nat → Nat → Machine QualityError Collected}

/-- Polling collects nothing. -/
theorem poll_collected {pass polled : Pass Collected} (asked : pass.poll cancelled = .ok polled) :
    polled.collected = pass.collected := by
  have sound : Sound _ _ (pass.poll cancelled) := poll_sound pass
  rw [asked] at sound
  exact sound.1

/-- A visit collects what it is told to. -/
theorem visitPixel_collected {pass after : Pass Collected} {x y : Nat}
    (visited : visitPixel cancelled visit y pass x = .ok after) :
    visit pass.collected x y = .ok after.collected := by
  simp only [visitPixel, bind_eq_ok_iff] at visited
  obtain ⟨polled, asked, _, -, collected, visited, same⟩ := visited
  obtain rfl := Except.ok.inj same
  rw [← poll_collected asked]
  exact visited

/-- A row of a pass collects what its visits collect. -/
theorem foldlM_visitPixel {columns : List Nat} {pass after : Pass Collected} {y : Nat}
    (scanned : columns.foldlM (visitPixel cancelled visit y) pass = .ok after) :
    columns.foldlM (fun collected x => visit collected x y) pass.collected =
      .ok after.collected := by
  induction columns generalizing pass with
  | nil =>
      obtain rfl := Except.ok.inj scanned
      rfl
  | cons x rest ih =>
      rw [List.foldlM_cons, bind_eq_ok_iff] at scanned
      obtain ⟨next, visited, scanned⟩ := scanned
      rw [List.foldlM_cons, visitPixel_collected visited, ok_bind, ih scanned]

/-- A pass collects what its visits collect, whatever its polls. -/
theorem scanPixels_collected {rows columns : List Nat} {start collected : Collected}
    {polls after : Nat}
    (scanned : scanPixels cancelled visit rows (.ok columns) start polls =
      .ok (collected, after)) :
    (places rows columns).foldlM (fun collected place => visit collected place.1 place.2) start =
      .ok collected := by
  rw [scanPixels, bind_eq_ok_iff] at scanned
  obtain ⟨pass, scanned, same⟩ := scanned
  obtain ⟨rfl, rfl⟩ := Prod.mk.inj (Except.ok.inj same)
  suffices passed : ∀ first : Pass Collected,
      rows.foldlM (fun pass y => columns.foldlM (visitPixel cancelled visit y) pass) first =
        .ok pass →
      (places rows columns).foldlM (fun collected place => visit collected place.1 place.2)
        first.collected = .ok pass.collected from passed _ scanned
  clear scanned
  induction rows with
  | nil =>
      intro first scanned
      obtain rfl := Except.ok.inj scanned
      rfl
  | cons y rest ih =>
      intro first scanned
      rw [List.foldlM_cons, bind_eq_ok_iff] at scanned
      obtain ⟨next, row, scanned⟩ := scanned
      rw [places, List.flatMap_cons, List.foldlM_append, List.foldlM_map, foldlM_visitPixel row,
        ok_bind]
      exact ih next scanned

end

/-- The statistics of pixels with some luma. -/
structure LumaStatistics.Summarizes (statistics : LumaStatistics) (values : List UInt8) :
    Prop where
  histogram : statistics.histogram = histogramOf values
  pixelCount : statistics.pixelCount = values.length

/-- Empty statistics summarize nothing. -/
theorem LumaStatistics.empty_summarizes : LumaStatistics.empty.Summarizes [] where
  histogram := histogram_nil.symm
  pixelCount := rfl

/-- A visit adds its pixel to the summary. -/
theorem LumaStatistics.visit_summarizes {image : QualityImageView}
    {statistics next : LumaStatistics} {values : List UInt8} {x y : Nat}
    (summary : statistics.Summarizes values)
    (visited : LumaStatistics.visit image statistics x y = .ok next) :
    ∃ value, luma image x y = .ok value ∧ next.Summarizes (values ++ [value]) := by
  simp only [LumaStatistics.visit, bind_eq_ok_iff, unsigned_eq_ok_iff] at visited
  obtain ⟨value, read, frequency, found, _, ⟨-, rfl⟩, _, ⟨-, rfl⟩, _, ⟨-, rfl⟩, same⟩ := visited
  obtain rfl := Except.ok.inj same
  have inside : value.toNat < LUMA_LEVELS := value.toNat_lt
  rw [summary.histogram, histogramOf, item_eq (getElem?_histogram inside)] at found
  obtain rfl := Except.ok.inj found
  refine ⟨value, read, ⟨?_, ?_⟩⟩
  · dsimp only
    rw [summary.histogram, histogramOf, histogramOf, levels, levels, List.map_append,
      List.map_singleton, histogram_concat]
  · dsimp only
    rw [summary.pixelCount, List.length_append, List.length_singleton]

/-- A pass that ends has the histogram and the number of the pixels of its region. -/
theorem scanLuma_summarizes {image : QualityImageView} {region : PixelRegion}
    {cancelled : Nat → Bool} {statistics : LumaStatistics} {polls after : Nat}
    (scanned : scanLuma cancelled image region polls = .ok (statistics, after)) :
    ∃ values, lumas image region = .ok values ∧ statistics.Summarizes values := by
  have visits := scanPixels_collected scanned
  unfold lumas
  generalize places (range region.yStart region.yEnd) (range region.xStart region.xEnd) = pixels
    at visits
  suffices summed : ∀ (pixels : List (Nat × Nat)) (first : LumaStatistics) (values : List UInt8),
      first.Summarizes values →
      pixels.foldlM (fun statistics place => LumaStatistics.visit image statistics place.1 place.2)
        first = .ok statistics →
      ∃ more, pixels.mapM (fun place => luma image place.1 place.2) = .ok more ∧
        statistics.Summarizes (values ++ more) from
    summed pixels .empty [] LumaStatistics.empty_summarizes visits
  clear visits pixels
  intro pixels
  induction pixels with
  | nil =>
      intro first values summary visits
      obtain rfl := Except.ok.inj visits
      exact ⟨[], rfl, by rwa [List.append_nil]⟩
  | cons place rest ih =>
      intro first values summary visits
      rw [List.foldlM_cons, bind_eq_ok_iff] at visits
      obtain ⟨next, visited, visits⟩ := visits
      obtain ⟨value, read, summary⟩ := LumaStatistics.visit_summarizes summary visited
      obtain ⟨more, reads, summary⟩ := ih next _ summary visits
      refine ⟨value :: more, ?_, ?_⟩
      · rw [List.mapM_cons, read, ok_bind, reads]
        rfl
      · rwa [List.append_assoc] at summary

/-! ## Order statistics -/

section

variable {values : List UInt8}

theorem orderStatistic_percentile {percentile : Nat} (occupied : values ≠ [])
    (percent : percentile ≤ 100) : ∃ level,
    orderStatistic (levels values) (percentileRank values.length percentile) = some level := by
  apply orderStatistic_of_lt
  rw [length_levels]
  exact percentileRank_lt (List.length_pos_of_ne_nil occupied) percent

theorem histogramPercentile_eq {percentile level : Nat}
    (few : values.length ≤ ABSOLUTE_MAX_IMAGE_PIXELS) (percent : percentile ≤ 100)
    (known : orderStatistic (levels values) (percentileRank values.length percentile) =
      some level) :
    histogramPercentile (histogramOf values) values.length percentile = .ok level := by
  rw [histogramPercentile_eq_or, histogramPercentileOr_eq few percent known]

/-- Higher percentiles have higher levels. -/
theorem histogramPercentile_mono {low high : Nat} (occupied : values ≠ [])
    (few : values.length ≤ ABSOLUTE_MAX_IMAGE_PIXELS) (order : low ≤ high)
    (percent : high ≤ 100) : ∃ dark bright,
    histogramPercentile (histogramOf values) values.length low = .ok dark ∧
      histogramPercentile (histogramOf values) values.length high = .ok bright ∧
      dark ≤ bright := by
  obtain ⟨dark, lower⟩ := orderStatistic_percentile occupied (order.trans percent)
  obtain ⟨bright, higher⟩ := orderStatistic_percentile occupied percent
  exact ⟨dark, bright, histogramPercentile_eq few (order.trans percent) lower,
    histogramPercentile_eq few percent higher,
    orderStatistic_mono (percentileRank_mono order) lower higher⟩

end

/-- The percentile of a histogram is the order statistic of the pixels it counts. -/
theorem histogramPercentile_orderStatistic :
    (∀ values : List UInt8, values ≠ [] → values.length ≤ ABSOLUTE_MAX_IMAGE_PIXELS →
      (∀ percentile ≤ 100, ∃ level,
        ((levels values).insertionSort (· ≤ ·))[(values.length - 1) * percentile / 100]? =
          some level ∧
        histogramPercentile (histogramOf values) values.length percentile = .ok level ∧
        ∀ fallen, histogramPercentileOr fallen (histogramOf values) values.length percentile =
          .ok level) ∧
      ∀ low high, low ≤ high → high ≤ 100 → ∃ dark bright,
        histogramPercentile (histogramOf values) values.length low = .ok dark ∧
        histogramPercentile (histogramOf values) values.length high = .ok bright ∧
        dark ≤ bright ∧ ((bright - dark : Nat) : Int) = bright - dark) ∧
    ∀ cancelled image region polls statistics after,
      scanLuma cancelled image region polls = .ok (statistics, after) →
      ∃ values, lumas image region = .ok values ∧ statistics.histogram = histogramOf values ∧
        statistics.pixelCount = values.length := by
  refine ⟨fun values occupied few => ⟨?_, ?_⟩, ?_⟩
  · intro percentile percent
    obtain ⟨level, known⟩ := orderStatistic_percentile occupied percent
    exact ⟨level, known, histogramPercentile_eq few percent known,
      histogramPercentileOr_eq few percent known⟩
  · intro low high order percent
    obtain ⟨dark, bright, lower, higher, ordered⟩ :=
      histogramPercentile_mono occupied few order percent
    exact ⟨dark, bright, lower, higher, ordered, Int.natCast_sub ordered⟩
  · intro cancelled image region polls statistics after scanned
    obtain ⟨values, read, summary⟩ := scanLuma_summarizes scanned
    exact ⟨values, read, summary.histogram, summary.pixelCount⟩

theorem histogramPercentile_orderStatistic_four :
    histogramPercentile (histogramOf [9, 3, 200, 7]) 4 50 = .ok 7 ∧
      ∃ statistics after, scanLuma (fun _ => false) ⟨2, 2, .gray8, [9, 3, 200, 7]⟩ ⟨0, 2, 0, 2⟩ 1 =
        .ok (statistics, after) ∧ statistics.histogram = histogramOf [9, 3, 200, 7] := by
  constructor
  · obtain ⟨ranks, -⟩ :=
      histogramPercentile_orderStatistic.1 [9, 3, 200, 7] (by decide) (by decide)
    obtain ⟨level, known, reached, -⟩ := ranks 50 (by decide)
    have sorted : ((levels [9, 3, 200, 7]).insertionSort (· ≤ ·))[(4 - 1) * 50 / 100]? =
        some 7 := by decide
    obtain rfl := Option.some.inj (sorted.symm.trans known)
    exact reached
  · obtain ⟨statistics, scanned⟩ : ∃ statistics,
        scanLuma (fun _ => false) ⟨2, 2, .gray8, [9, 3, 200, 7]⟩ ⟨0, 2, 0, 2⟩ 1 =
          .ok (statistics, 2) := ⟨_, rfl⟩
    obtain ⟨values, read, histogram, -⟩ :=
      histogramPercentile_orderStatistic.2 _ _ _ _ _ _ scanned
    obtain rfl := Except.ok.inj read
    exact ⟨statistics, 2, scanned, histogram⟩

end FaceAuth.Quality
