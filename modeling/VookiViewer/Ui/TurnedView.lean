import VookiViewer.Processing.TurnedPicture
import VookiViewer.Ui.WindowDisplay

/-!
# Turning the picture around

However a picture that is not scrolled is flipped and turned, what is displayed depends on the
product of the flips and turns alone: two ways to the same orientation give the same picture at
the same zoom, and flips and turns that cancel restore the picture there was.
-/

namespace VookiViewer

/-- The flip or turn that an event asks for. -/
def ViewEvent.turn {C : Type} : ViewEvent C → Option (ImageProcessor.Op C ℚ)
  | .flipHorizontallyTriggered => some .flipHorizontally
  | .flipVerticallyTriggered => some .flipVertically
  | .rotateLeftTriggered => some .rotateLeft
  | .rotateRightTriggered => some .rotateRight
  | _ => none

/-- The symmetry that a command asks for, if it is a flip or a turn. -/
def Command.turn {C : Type} : Command C → Option Symmetry
  | .deliver ⟨.view event, _⟩ => event.turn.map ImageProcessor.Op.symmetry
  | _ => none

namespace ImageAreaWidget

variable {S T C : Type} [QTransformOps T ℚ] [QImageOps T C] [QPixelOps C]

open CacheFree (Settings)

/-! ## Every orientation has a form -/

/-- Rendering keeps the flags and the quadrant in range. -/
theorem steady_transformImage {w : ImageAreaWidget S T C} (h : w.Bound)
    (hsteady : w.imageProcessor.settings.Steady) :
    w.transformImage.imageProcessor.settings.Steady := by
  cases himage : w.originalImage.isNull with
  | true =>
      rw [transformImage_of_null himage]
      exact hsteady
  | false =>
      rw [(h.rendered himage).2.1]
      exact (Settings.process_orientation _).2 ⟨hsteady.quadrants, hsteady.oneFlip⟩

/-- The flags and the quadrant are in range in every fresh picture. -/
theorem steady_rule : RenderRule (S := S) (T := T) (C := C)
    (fun w => w.Bound ∧ w.imageProcessor.settings.Steady)
    (fun w => w.Fresh ∧ w.imageProcessor.settings.Steady) where
  weaken := fun hw => ⟨hw.1.bound, hw.2⟩
  operate := by
    intro w op hop hw
    refine ⟨hw.1.operate op hop, ?_⟩
    -- the settings of the processor go where its operations take them without the caches
    have hsettings : (w.imageProcessor.step op).1.settings =
        (w.imageProcessor.settings.step (T := T) op).1 :=
      (ImageProcessor.step_related ⟨rfl, hw.1.coherent⟩ op).1.1
    show (w.imageProcessor.step op).1.settings.Steady
    rw [hsettings]
    exact (Settings.step_orientation hw.2 op).2
  size := fun _ hw => ⟨fresh_rule.size _ hw.1, hw.2⟩
  bind := by
    intro w loader image reset hw
    refine ⟨fresh_rule.bind loader image reset hw.1, ?_⟩
    have hsettings : (w.imageProcessor.step (.bind image reset)).1.settings =
        (w.imageProcessor.settings.step (T := T) (.bind image reset)).1 :=
      (ImageProcessor.step_related ⟨rfl, hw.1.coherent⟩ _).1.1
    show (w.imageProcessor.step (.bind image reset)).1.settings.Steady
    rw [hsettings]
    exact (Settings.step_orientation hw.2 _).2
  signal := fun _ hw => ⟨fresh_rule.signal _ hw.1, hw.2⟩
  transform := fun hw => ⟨hw.1.transformImage, steady_transformImage hw.1 hw.2⟩
  null := fun _ _ hnull hw => ⟨fresh_rule.null _ _ hnull hw.1, hw.2⟩
  loader := fun _ hw => ⟨fresh_rule.loader _ hw.1, hw.2⟩
  mouse := fun _ hw => ⟨fresh_rule.mouse _ hw.1, hw.2⟩
  gesture := fun _ hw => ⟨fresh_rule.gesture _ hw.1, hw.2⟩
  silent := fun _ hw => ⟨fresh_rule.silent _ hw.1, hw.2⟩
  sameFit := fun hw => ⟨fresh_rule.sameFit hw.1, ⟨hw.2.quadrants, hw.2.oneFlip⟩⟩

/-! ## A flip or a turn -/

/-- `w'` is `w` with a fresh picture in another orientation. -/
structure TurnedBy (w w' : ImageAreaWidget S T C) (symmetry : Symmetry) : Prop where
  fresh : w'.Fresh
  steady : w'.imageProcessor.settings.Steady
  image : w'.originalImage = w.originalImage
  alike : Settings.Alike w.imageProcessor.settings w'.imageProcessor.settings
  orientation : w'.imageProcessor.settings.orientation =
    symmetry * w.imageProcessor.settings.orientation

/-- One flip or turn after another. -/
theorem TurnedBy.trans {w w' w'' : ImageAreaWidget S T C} {symmetry symmetry' : Symmetry}
    (h : TurnedBy w w' symmetry) (h' : TurnedBy w' w'' symmetry') :
    TurnedBy w w'' (symmetry' * symmetry) where
  fresh := h'.fresh
  steady := h'.steady
  image := h'.image.trans h.image
  alike := h.alike.trans h'.alike
  orientation := by
    rw [h'.orientation, h.orientation, mul_assoc]

/-- A flip or a turn of a picture that is not scrolled. -/
theorem Fresh.turned {w : ImageAreaWidget S T C} (h : w.Fresh)
    (hsteady : w.imageProcessor.settings.Steady) (himage : w.originalImage.isNull = false)
    (hx : w.imageProcessor.settings.imageOffsetX = 0)
    (hy : w.imageProcessor.settings.imageOffsetY = 0) {op : ImageProcessor.Op C ℚ}
    (hop : (op.isFlip || op.isTurn) = true) :
    TurnedBy w (w.operate op).transformImage op.symmetry := by
  -- a flip or a turn is an operation of the view, and keeps the image
  have hview : op.isOfView = true ∧ op.resets = false := by
    cases op with
    | flipHorizontally => exact ⟨rfl, rfl⟩
    | flipVertically => exact ⟨rfl, rfl⟩
    | rotateLeft => exact ⟨rfl, rfl⟩
    | rotateRight => exact ⟨rfl, rfl⟩
    | _ => exact absurd hop Bool.false_ne_true
  let s := w.imageProcessor.settings
  let t := (s.step (T := T) op).1
  have hsettings : (w.operate op).imageProcessor.settings = t :=
    (ImageProcessor.step_related ⟨rfl, h.bound.coherent⟩ op).1.1
  rcases Settings.step_orientation (T := T) hsteady op with ⟨horientation, hsteady'⟩
  -- the area has the size the settings know, so only the orientation has changed
  have hsized : Settings.Alike s (t.sized w.size) := by
    have hstep := Settings.step_alike (T := T) s hop
    have hsame : s.sized w.size = s := h.sized himage
    have hwidth : w.size.width = s.areaWidth := congrArg Settings.areaWidth hsame
    have hheight : w.size.height = s.areaHeight := congrArg Settings.areaHeight hsame
    have hsize : w.size = s.areaSize := congrArg Settings.areaSize hsame
    exact { hstep with areaWidth := hwidth, areaHeight := hheight, areaSize := hsize }
  have himage' : (t.sized w.size).originalImage.isNull = false := by
    rw [hsized.originalImage]
    exact h.bound.isNull himage
  have hbound := h.bound.operate op hview.1
  have hrendered := (hbound.rendered himage).2.1
  have hsize : (w.operate op).size = w.size := rfl
  rw [hsettings, hsize] at hrendered
  have hprocess := Settings.process_alike (T := T) himage' (hsized.imageOffsetX.trans hx)
    (hsized.imageOffsetY.trans hy)
  refine ⟨hbound.transformImage, ?_, originalImage_transformImage _, ?_, ?_⟩
  -- the flags, the settings, and the orientation after rendering
  · exact steady_transformImage hbound (hsettings ▸ hsteady')
  · rw [hrendered]
    exact hsized.trans hprocess
  · rw [hrendered, ((t.sized w.size).process_orientation (T := T)).1]
    show t.orientation = _
    rw [horientation]
    unfold ImageProcessor.Op.orient
    rw [hview.2]
    rfl

/-- The events that ask for it do no more. -/
theorem viewEvent_turn (w : ImageAreaWidget S T C) {event : ViewEvent C}
    {op : ImageProcessor.Op C ℚ} (h : event.turn = some op) :
    w.viewEvent event = (w.operate op).transformImage ∧ (op.isFlip || op.isTurn) = true := by
  cases event with
  | flipHorizontallyTriggered =>
      injection h with hop
      rw [← hop]
      exact ⟨rfl, rfl⟩
  | flipVerticallyTriggered =>
      injection h with hop
      rw [← hop]
      exact ⟨rfl, rfl⟩
  | rotateLeftTriggered =>
      injection h with hop
      rw [← hop]
      exact ⟨rfl, rfl⟩
  | rotateRightTriggered =>
      injection h with hop
      rw [← hop]
      exact ⟨rfl, rfl⟩
  | _ => exact absurd h (by simp [ViewEvent.turn])

/-- Two fresh pictures of one orientation, from settings that are alike. -/
theorem TurnedBy.same_picture [LawfulMap T] [LawfulTypes T] [LawfulScaled T C]
    {w v v' : ImageAreaWidget S T C} {symmetry : Symmetry} (h : TurnedBy w v symmetry)
    (h' : TurnedBy w v' symmetry) (himage : w.originalImage.isNull = false)
    (hscale : v.imageProcessor.getScaleFactor ≠ 0) :
    v'.finalImage = v.finalImage ∧
      v'.imageProcessor.getScaleFactor = v.imageProcessor.getScaleFactor := by
  have halike := h.alike.symm.trans h'.alike
  have horientation := h'.orientation.trans h.orientation.symm
  -- a fresh picture is that of its settings
  have hpicture : ∀ {u : ImageAreaWidget S T C}, TurnedBy w u symmetry →
      u.finalImage = (u.imageProcessor.settings.bordered (T := T)).2 ∧
        (u.imageProcessor.settings.zoomed (T := T)).1.scaleFactor =
          u.imageProcessor.getScaleFactor := by
    intro u hu
    have huimage : u.originalImage.isNull = false := (congrArg Grid.isNull hu.image).trans himage
    rcases hu.fresh.canvas huimage with ⟨hfinal, hzoomed, -, -⟩
    exact ⟨hfinal, hzoomed⟩
  rcases hpicture h with ⟨hv, hvscale⟩
  rcases hpicture h' with ⟨hv', hvscale'⟩
  refine ⟨?_, ?_⟩
  · rw [hv, hv']
    exact halike.bordered h.steady h'.steady horientation (by rw [hvscale]; exact hscale)
  · rw [← hvscale, ← hvscale']
    exact halike.nextScaleFactor h.steady h'.steady horientation

end ImageAreaWidget

namespace MainWindow

open ImageAreaWidget

variable {S T C : Type} [QImageReaderOps S C] [QTransformOps T ℚ] [QImageOps T C] [QPixelOps C]

/-- In every state the flags and the quadrant are in range. -/
theorem after_steady (E : Installation C) (p : Preferences) (commands : List (Command C)) :
    (after E p commands :
      MainWindow S T C).viewer.imageAreaWidget.imageProcessor.settings.Steady := by
  refine (after_rule steady_rule E p ?_ ?_ commands).2
  -- accepted settings set colours only
  · rintro area q ⟨hfresh, hsteady⟩
    exact ⟨fresh_accepted hfresh E q, steady_transformImage (bound_painted hfresh.bound E q)
      ⟨hsteady.quadrants, hsteady.oneFlip⟩⟩
  · refine ⟨fresh_new E p, ?_⟩
    -- a new window has neither turned nor flipped anything
    have harea : (new E p : MainWindow S T C).viewer.imageAreaWidget =
        painted E (startPreferences E p) (if option E.conversions (startPreferences E p)
          .checkBoxImageFitToWindow then (Viewer.new : Viewer S T C).setFitToWindowChecked true
          else Viewer.new).imageAreaWidget := rfl
    rw [harea]
    split
    · exact ⟨rfl, rfl⟩
    · exact ⟨rfl, rfl⟩

/-- A run of flips and turns of a picture that is not scrolled. -/
theorem exec_turn {E : Installation C} {w : MainWindow S T C} {rest : List (Command C)}
    {symmetries : List Symmetry} (h : w.viewer.imageAreaWidget.Fresh)
    (hsteady : w.viewer.imageAreaWidget.imageProcessor.settings.Steady)
    (himage : w.viewer.imageAreaWidget.originalImage.isNull = false)
    (hx : w.viewer.imageAreaWidget.imageProcessor.settings.imageOffsetX = 0)
    (hy : w.viewer.imageAreaWidget.imageProcessor.settings.imageOffsetY = 0)
    (hrest : rest.map Command.turn = symmetries.map some) :
    TurnedBy w.viewer.imageAreaWidget ((machine E).exec w rest).viewer.imageAreaWidget
      symmetries.reverse.prod := by
  -- by the commands: the first symmetry is applied first and stands last in the product
  induction rest generalizing w symmetries with
  | nil =>
      have hnone : symmetries = [] := by simpa using hrest.symm
      rw [hnone]
      exact ⟨h, hsteady, rfl, CacheFree.Settings.Alike.refl _, (one_mul _).symm⟩
  | cons command rest ih =>
      rcases symmetries with _ | ⟨symmetry, symmetries⟩
      · exact absurd hrest (by simp)
      · rw [List.map_cons, List.map_cons, List.cons.injEq] at hrest
        -- a command with a symmetry is one of the four events
        have hstep : TurnedBy w.viewer.imageAreaWidget
            (w.handle E command).viewer.imageAreaWidget symmetry := by
          cases command with
          | deliver event =>
              rcases event with ⟨event, hdelivered⟩
              cases event with
              | view event =>
                  rcases Option.map_eq_some_iff.mp hrest.1 with ⟨op, hop, rfl⟩
                  rcases viewEvent_turn w.viewer.imageAreaWidget hop with ⟨hevent, hturn⟩
                  have hturned := h.turned hsteady himage hx hy hturn
                  rw [← hevent] at hturned
                  exact hturned
              | _ => exact absurd hrest.1 (by simp [Command.turn])
          | _ => exact absurd hrest.1 (by simp [Command.turn])
        have htail := ih hstep.fresh hstep.steady ((congrArg Grid.isNull hstep.image).trans himage)
          (hstep.alike.imageOffsetX.trans hx) (hstep.alike.imageOffsetY.trans hy) hrest.2
        rw [List.reverse_cons, List.prod_append, List.prod_singleton]
        exact hstep.trans htail

/-- From any state of the window with an image that is not scrolled, two sequences of flips and
turns with the same product lead to the same picture on display, at the same zoom, if that is
not zero. In particular flips and turns that cancel restore the picture, whatever of them were
asked for before. -/
theorem turned_alike [LawfulMap T] [LawfulTypes T] [LawfulScaled T C] (E : Installation C)
    (p : Preferences) (pre xs ys : List (Command C)) (ds es : List Symmetry)
    (himage : (after E p pre : MainWindow S T C).viewer.imageAreaWidget.originalImage.isNull =
      false)
    (hx : (after E p pre : MainWindow S T C).viewer.imageAreaWidget.imageProcessor.getImageOffsetX =
      0)
    (hy : (after E p pre : MainWindow S T C).viewer.imageAreaWidget.imageProcessor.getImageOffsetY =
      0)
    (hxs : xs.map Command.turn = ds.map some) (hys : ys.map Command.turn = es.map some)
    (hproduct : ds.reverse.prod = es.reverse.prod)
    (hscale : (after E p (pre ++ xs) :
      MainWindow S T C).viewer.imageAreaWidget.imageProcessor.getScaleFactor ≠ 0) :
    let area := (after E p (pre ++ xs) : MainWindow S T C).viewer.imageAreaWidget
    let area' := (after E p (pre ++ ys) : MainWindow S T C).viewer.imageAreaWidget
    area'.finalImage = area.finalImage ∧
      area'.imageProcessor.getScaleFactor = area.imageProcessor.getScaleFactor := by
  intro area area'
  have hfresh := after_fresh (S := S) (T := T) E p pre
  have hsteady := after_steady (S := S) (T := T) E p pre
  -- both runs turn the same picture, by the same product
  have hturned : TurnedBy (after E p pre : MainWindow S T C).viewer.imageAreaWidget area
      ds.reverse.prod := by
    have harea : area = ((machine E).exec (after E p pre : MainWindow S T C)
        xs).viewer.imageAreaWidget := by
      rw [← after_append]
    rw [harea]
    exact exec_turn hfresh hsteady himage hx hy hxs
  have hturned' : TurnedBy (after E p pre : MainWindow S T C).viewer.imageAreaWidget area'
      ds.reverse.prod := by
    have harea : area' = ((machine E).exec (after E p pre : MainWindow S T C)
        ys).viewer.imageAreaWidget := by
      rw [← after_append]
    rw [harea, hproduct]
    exact exec_turn hfresh hsteady himage hx hy hys
  exact hturned.same_picture hturned' himage hscale

/-- An image is flipped vertically, and then twice horizontally. The settings of the processor
are not what they were: it now has a horizontal flip and two turns. -/
theorem turned_alike_flips :
    let pre : List (Command Rgb32) :=
      [.handleImagePath Example.pictureDisk "/d/b.png" true,
        .deliver ⟨.view (.resize { width := 5, height := 5 }), rfl⟩,
        .deliver ⟨.view .flipVerticallyTriggered, rfl⟩]
    let flips : List (Command Rgb32) :=
      [.deliver ⟨.view .flipHorizontallyTriggered, rfl⟩,
        .deliver ⟨.view .flipHorizontallyTriggered, rfl⟩]
    (after Example.installation RecentFilesWindow.Example.preferences (pre ++ []) :
        Example.Window).viewer.imageAreaWidget.finalImage =
      (after Example.installation RecentFilesWindow.Example.preferences (pre ++ flips) :
        Example.Window).viewer.imageAreaWidget.finalImage := by
  intro pre flips
  exact (turned_alike (S := MemoryReader Example.readable) (T := PlaneTransform)
    Example.installation RecentFilesWindow.Example.preferences pre flips []
    [.reflectRows, .reflectRows] [] (by decide +kernel) (by decide +kernel) (by decide +kernel)
    rfl rfl (by decide) (by decide +kernel)).1

end MainWindow

end VookiViewer
