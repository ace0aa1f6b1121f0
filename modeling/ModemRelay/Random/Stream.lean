import ModemRelay.Duration
import ModemRelay.Random.ChaCha

/-! Random numbers that a seed determines.

A stream is its seed and how many words have been drawn from it. A number up to a bound is drawn
without favour: words that would make some results likelier than others are passed over. -/

namespace ModemRelay

/-- A stream of random words. -/
structure Random where
  seed : UInt64
  drawn : Nat := 0
  deriving DecidableEq

namespace Random

def draw (r : Random) : UInt64 × Random :=
  ((Key.ofSeed r.seed).word r.drawn, { r with drawn := r.drawn + 1 })

/-- Draws until a word falls into the `zone` and scales it to below `range`. After `attempts` words
that have been passed over it gives 0, where drawing without a bound would go on. -/
private def pick (range zone : Nat) : (attempts : Nat) → Random → Nat × Random
  | 0, r => (0, r)
  | attempts + 1, r =>
    let (word, r) := r.draw
    let product := word.toNat * range
    if product % UInt64.size ≤ zone then (product / UInt64.size, r) else pick range zone attempts r

/-- How many words are tried. Each falls into the zone more often than not. -/
private def attempts : Nat := 4096

/-- A number from `0` to `max`, both included, all equally likely. -/
def drawUpTo (max : UInt64) (r : Random) : UInt64 × Random :=
  let range := max.toNat + 1
  if range = UInt64.size then
    r.draw
  else
    let zone := range <<< (63 - range.log2) - 1
    let (n, r) := pick range zone attempts r
    (.ofNat n, r)

/-- A delay of whole milliseconds up to `max`. A bound of zero draws nothing. -/
def jitter (max : Duration) (r : Random) : Duration × Random :=
  if max.nanos = 0 then
    (.zero, r)
  else
    let (ms, r) := r.drawUpTo (.ofNat (min max.millis (UInt64.size - 1)))
    (.ofMillis ms, r)

private theorem pick_lt (zone : Nat) {range : Nat} (h : 0 < range) (n : Nat) (r : Random) :
    (pick range zone n r).1 < range := by
  induction n generalizing r with
  | zero => exact h
  | succ n ih =>
    unfold pick
    dsimp only
    split
    · have := r.draw.1.toNat_lt
      rw [Nat.div_lt_iff_lt_mul (by decide), Nat.mul_comm]
      exact Nat.mul_lt_mul_of_pos_left this h
    · exact ih _

theorem drawUpTo_le (max : UInt64) (r : Random) : (r.drawUpTo max).1 ≤ max := by
  unfold drawUpTo
  dsimp only
  have hmax := max.toNat_lt
  have hsize : UInt64.size = 18_446_744_073_709_551_616 := rfl
  rw [UInt64.le_iff_toNat_le]
  split
  · have := r.draw.1.toNat_lt
    omega
  · next h =>
    have := pick_lt ((max.toNat + 1) <<< (63 - (max.toNat + 1).log2) - 1)
      (show 0 < max.toNat + 1 by omega) attempts r
    simp only [UInt64.toNat_ofNat']
    omega

theorem jitter_le (max : Duration) (r : Random) : (r.jitter max).1 ≤ max := by
  unfold jitter
  rw [Duration.le_def]
  split
  · simp
  · have := r.drawUpTo_le (.ofNat (min max.millis (UInt64.size - 1)))
    have hsize : UInt64.size = 18_446_744_073_709_551_616 := rfl
    rw [UInt64.le_iff_toNat_le, UInt64.toNat_ofNat'] at this
    simp only [Duration.nanos_ofMillis, Duration.millis] at this ⊢
    omega

example : ((⟨0, 0⟩ : Random).draw.1, (⟨0, 1⟩ : Random).draw.1, (⟨1, 0⟩ : Random).draw.1) =
    (13080132717333068652, 8594738769458413623, 7424550030962593201) := by decide +kernel

end Random

end ModemRelay
