import TwinDesk.Proofs.Desktop.Cursor

/-!
# Room for the damage

However much is done to the desktop, no more than `Layout.maxDirtyRects` rectangles wait to be
painted, so that their number fits into a result word.

* `Pool.Fits`, `Compositor.Fits` — the bound, for windows and for the whole screen.
* `Pool.Fits.of_leadsTo` — no use of the pool breaks it.
* `Desktop.pointerEvent_fits` — no pointer event breaks it.
-/

namespace TwinDesk

/-! ## Windows -/

namespace Pool

variable {pool : Pool} {slot : Slot}

/-- There is room for all damage. -/
def Fits (pool : Pool) : Prop :=
  pool.damage.Fits

namespace Fits

variable (fits : pool.Fits)
include fits

theorem invalidate (rect : Rect) : (pool.invalidate rect).Fits :=
  Damage.fits_invalidate fits rect

theorem invalidateSlot (slot : Slot) : (pool.invalidateSlot slot).Fits := by
  unfold Pool.invalidateSlot
  split
  · exact fits.invalidate _
  · exact fits

theorem modify (slot : Slot) (f : Window → Window) : (pool.modify slot f).Fits :=
  fits

theorem deactivateOthers (slot : Slot) : (pool.deactivateOthers slot).Fits := by
  unfold Pool.deactivateOthers
  split
  · split
    · exact fits
    · exact (fits.modify _ _).invalidateSlot _
  · exact fits

theorem activate (slot : Slot) : (pool.activate slot).Fits :=
  fits.deactivateOthers slot

theorem allocate (frame : Rect) (title : String) (style : WindowStyle) (flags : WindowFlags) :
    (pool.allocate frame title style flags).2.Fits := by
  unfold Pool.allocate
  split
  · exact fits
  · dsimp only
    split
    · refine invalidateSlot (activate ?_ _) _
      exact fits
    · refine activate ?_ _
      exact fits

theorem free (id : WindowId) : (pool.free id).2.Fits := by
  unfold Pool.free
  split
  · exact fits
  · dsimp only
    split
    · split
      · refine invalidateSlot ?_ _
        exact fits.invalidate _
      · exact fits.invalidate _
    · exact fits.invalidate _

theorem select (id : WindowId) : (pool.select id).2.Fits := by
  unfold Pool.select
  split
  · exact fits
  · split
    · exact fits
    · refine invalidateSlot (activate ?_ _) _
      exact fits

theorem sendToBack (id : WindowId) : (pool.sendToBack id).2.Fits := by
  unfold Pool.sendToBack
  split
  · exact fits
  · split
    · exact fits
    · refine invalidateSlot ?_ _
      exact fits

theorem reveal (id : WindowId) : (pool.reveal id).2.Fits := by
  unfold Pool.reveal
  split
  · exact fits
  · split
    · exact fits
    · exact (fits.modify _ _).invalidate _

theorem hide (id : WindowId) : (pool.hide id).2.Fits := by
  unfold Pool.hide
  split
  · exact fits
  · split
    · exact (fits.modify _ _).invalidate _
    · exact fits

theorem reframe (id : WindowId) (frame : Rect → Rect) : (pool.reframe id frame).2.Fits := by
  unfold Pool.reframe
  split
  · exact fits
  · exact ((fits.modify _ _).invalidate _).invalidate _

theorem setTitle (id : WindowId) (title : String) : (pool.setTitle id title).2.Fits := by
  unfold Pool.setTitle
  split
  · exact fits
  · exact (fits.modify _ _).invalidate _

theorem invalidateWindow (id : WindowId) : (pool.invalidateWindow id).2.Fits := by
  unfold Pool.invalidateWindow
  split
  · exact fits
  · exact fits.invalidate _

theorem edit (edit : Edit) : (edit.run pool).Fits := by
  cases edit with
  | allocate frame title style flags => exact fits.allocate frame title style flags
  | free id => exact fits.free id
  | select id => exact fits.select id
  | sendToBack id => exact fits.sendToBack id
  | reveal id => exact fits.reveal id
  | hide id => exact fits.hide id
  | moveTo id x y => exact fits.reframe id _
  | resize id width height => exact fits.reframe id _
  | setTitle id title => exact fits.setTitle id title
  | invalidate rect => exact fits.invalidate rect
  | invalidateWindow id => exact fits.invalidateWindow id

/-- Whatever callers do, there is room for the damage. -/
theorem action (action : Action) : (action.run pool).Fits := by
  cases action with
  | perform operation =>
    cases operation with
    | edit change => exact fits.edit change
    | clear => exact Nat.zero_le _
  | invalidateMenuBar => exact fits
  | endUpdate => exact Nat.zero_le _

theorem of_leadsTo {pool' : Pool} (leads : pool.LeadsTo pool') : pool'.Fits :=
  leads.keeps (fun _ action fits => Fits.action fits action) fits

end Fits

end Pool

/-! ## The compositor -/

namespace Compositor

variable {P : Type} {c : Compositor P}

/-- There is room for all damage. -/
def Fits (c : Compositor P) : Prop :=
  c.windows.Fits

theorem fits_initial : (initial : Compositor P).Fits :=
  Damage.fits_invalidate (Nat.zero_le _) _

/-- After a frame nothing waits to be painted. -/
theorem paint_clears [WindowContent P] : Ensures c.paint fun result => result.2.pendingDamage = 0 :=
  (Ensures.any _).bind fun _ _ => .pure rfl

theorem paint_fits [WindowContent P] : Ensures c.paint fun result => result.2.Fits :=
  fun _ eq => Nat.le_trans (Nat.le_of_eq (paint_clears _ eq)) (Nat.zero_le _)

end Compositor

/-! ## The desktop -/

namespace Desktop

/-- There is room for all damage. -/
def Fits (desktop : Desktop) : Prop :=
  desktop.compositor.Fits

theorem fresh_fits : Ensures fresh fun result => result.2.Fits :=
  (Ensures.any _).bind fun _ _ => .pure (Compositor.fits_initial (P := StandIn))

/-- No pointer event does more damage than there is room for. -/
theorem pointerEvent_fits {desktop : Desktop} (fits : desktop.Fits) (launcher : Launcher)
    (event : PointerEvent) :
    Ensures (desktop.pointerEvent launcher event) fun result => result.1.Fits := by
  intro result eq
  have reaction := desktop.pointerEvent_reaction launcher event result eq
  exact Pool.Fits.of_leadsTo fits ((Compositor.leadsTo_moveCursor event.pos).trans reaction.leads)

end Desktop

end TwinDesk
