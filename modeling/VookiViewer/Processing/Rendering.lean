import VookiViewer.Processing.CacheCoherence
import VookiViewer.Processing.Viewport

/-!
# Rendering twice

`process` writes to the settings it renders from: the fit sets the scale factor, and the border
stage clamps the scroll offsets. Neither changes what the next call renders, so a call right
after another one returns the same picture and leaves the settings as they are.
-/

namespace VookiViewer

namespace ScrollAxis

/-- An offset that has been clamped stays. -/
theorem clamp_clamp (side area offset : ℤ) :
    clamp side area (clamp side area offset) = clamp side area offset := by
  unfold clamp
  dsimp only
  split_ifs <;> omega

end ScrollAxis

namespace ImageBorder

variable {C : Type} [QPixelOps C]

/-- A dirty stage paints from its clamped offsets, and leaves them behind. -/
theorem transform_of_dirty {b : ImageBorder C} (h : b.base.isCacheDirty = true) :
    let newImage : QImage C :=
      Grid.ofFn b.newSize.width b.newSize.height fun _ _ => b.backgroundColor
    b.transform =
      ({ b.checkScrollOffset newImage with
         base := (b.checkScrollOffset newImage).base.setCachedObject
           (b.checkScrollOffset newImage).canvas },
        (b.checkScrollOffset newImage).canvas) := by
  intro newImage
  unfold transform
  rw [if_pos h]
  rfl

/-- The offsets a dirty stage leaves are those it would leave the next time, with the same
picture. -/
theorem transform_clamped {b c : ImageBorder C} (hb : b.base.isCacheDirty = true)
    (hc : c = { b with
      imageOffsetY := b.transform.1.imageOffsetY
      imageOffsetX := b.transform.1.imageOffsetX }) :
    c.transform = b.transform := by
  have hdirty : c.base.isCacheDirty = true := by
    rw [hc]
    exact hb
  rw [transform_of_dirty hdirty, transform_of_dirty hb]
  -- the canvas does not depend on the offsets, and the clamp is idempotent
  have hchecked : c.checkScrollOffset
      (Grid.ofFn c.newSize.width c.newSize.height fun _ _ => c.backgroundColor) =
        b.checkScrollOffset
          (Grid.ofFn b.newSize.width b.newSize.height fun _ _ => b.backgroundColor) := by
    rw [hc, transform_of_dirty hb]
    have hclamp := ScrollAxis.clamp_clamp
    unfold ScrollAxis.clamp at hclamp
    unfold checkScrollOffset
    dsimp only at hclamp ⊢
    congr 1
    · exact hclamp _ _ _
    · exact hclamp _ _ _
  rw [hchecked]

end ImageBorder

namespace CacheFree.Settings

variable {T C R : Type} [QTransformOps T R]
variable [Mul R] [Div R] [LT R] [DecidableLT R] [IntCast R]

/-- The scale factor that the zoom stage leaves is the one it computes with. -/
theorem zoomed_again (s : Settings C R) :
    let t : Settings C R := { s with scaleFactor := (s.zoomed (T := T)).1.scaleFactor }
    (t.zoomed (T := T)).1.scaleFactor = (s.zoomed (T := T)).1.scaleFactor ∧
      (t.zoomed (T := T)).2 = (s.zoomed (T := T)).2 := by
  intro t
  let z : ImageZoom T R := s.zoomStage (s.rotationTransform : T)
  have hscale : (s.zoomed (T := T)).1.scaleFactor =
      z.nextScaleFactor (s.rotationTransform : T) := rfl
  -- the factor stored is the one that would be computed: with the fit on it is computed from the
  -- same numbers, and with the fit off it is the stored one
  constructor
  · show ImageZoom.nextScaleFactor { z with
      scaleFactor := z.nextScaleFactor (s.rotationTransform : T) } s.rotationTransform = _
    rw [hscale]
    unfold ImageZoom.nextScaleFactor
    split
    · rfl
    · rfl
  · exact congrFun (z.scaled_nextScaleFactor (s.rotationTransform : T) z.base) s.rotationTransform

variable [QImageOps T C] [QPixelOps C]

/-- On an image, a call after another one returns the same and changes nothing. -/
theorem process_process {s : Settings C R} (himage : s.originalImage.isNull = false) :
    (s.process (T := T)).1.process (T := T) = s.process (T := T) := by
  let t : Settings C R := { s with scaleFactor := (s.zoomed (T := T)).1.scaleFactor }
  rcases s.zoomed_again (T := T) with ⟨hscale, hzoom⟩
  -- the image the border stage is bound to is the same
  have htransformed : t.transformedImage (T := T) = s.transformedImage (T := T) := by
    unfold transformedImage
    rw [hzoom]
  let u : Settings C R := { t with
    imageOffsetY := (s.bordered (T := T)).1.imageOffsetY
    imageOffsetX := (s.bordered (T := T)).1.imageOffsetX }
  have hfirst : s.process (T := T) = (u, (s.bordered (T := T)).2) :=
    ImageProcessor.settings_process_of_image himage
  have hbordered : u.bordered (T := T) = s.bordered (T := T) := by
    have himage' : u.transformedImage (T := T) = s.transformedImage (T := T) := htransformed
    unfold bordered
    rw [himage']
    exact ImageBorder.transform_clamped rfl rfl
  have hsecond : u.process (T := T) = (u, (s.bordered (T := T)).2) := by
    have himage' : u.originalImage.isNull = false := himage
    have hscale' : (u.zoomed (T := T)).1.scaleFactor = (s.zoomed (T := T)).1.scaleFactor := hscale
    rw [ImageProcessor.settings_process_of_image himage', hbordered, hscale']
  rw [hfirst]
  exact hsecond

end CacheFree.Settings

namespace ImageProcessor

variable {T C R : Type} [QTransformOps T R] [QImageOps T C] [QPixelOps C]
variable [Mul R] [Div R] [LT R] [DecidableLT R] [IntCast R]

/-- The second of two calls of `process` in a row, for a processor with right caches. -/
theorem process_again {p : ImageProcessor T C R} (h : p.Coherent) :
    p.process.1.process.2 = p.process.2 ∧
      p.process.1.process.1.settings = p.process.1.settings := by
  -- each call computes what the cache-free processor does, from the settings the first one leaves
  rcases process_settings h with ⟨hset, hpicture⟩
  rcases process_settings (process_coherent h) with ⟨hset', hpicture'⟩
  rw [hset] at hset' hpicture'
  cases himage : p.originalImage.isNull with
  | true =>
      rw [process_of_null himage, process_of_null himage]
      exact ⟨rfl, rfl⟩
  | false =>
      have hagain := CacheFree.Settings.process_process (T := T) (s := p.settings) himage
      rw [hagain] at hset' hpicture'
      exact ⟨hpicture'.trans hpicture.symm, hset'.trans hset.symm⟩

end ImageProcessor

end VookiViewer
