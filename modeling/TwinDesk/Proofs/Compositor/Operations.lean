import TwinDesk.Compositor
import TwinDesk.Proofs.Checked
import TwinDesk.Proofs.Window.Coherent

/-!
# What the compositor does to its windows

The compositor changes its windows by the operations of the pool alone. What holds of a pool
however it is used therefore holds of the windows of a compositor.

* `Compositor.leadsTo_closeWindow`, `Compositor.leadsTo_attach`, `Compositor.leadsTo_forward`,
  `Compositor.leadsTo_moveCursor`, `Compositor.leadsTo_trackMenu` and others — one lemma for each
  operation.
-/

namespace TwinDesk

namespace Pool

theorem LeadsTo.invalidate {pool pool' : Pool} (leads : LeadsTo pool pool') (rect : Rect) :
    LeadsTo pool (pool'.invalidate rect) :=
  leads.trans (.edit (.invalidate rect))

/-- Reports about menus. -/
theorem leadsTo_reports (pool : Pool) (rects : List Rect) : LeadsTo pool
    { pool with damage := (rects.foldl Damage.invalidate pool.damage).invalidateMenuBar } := by
  induction rects generalizing pool with
  | nil => exact ⟨[.invalidateMenuBar], rfl⟩
  | cons rect rest ih => exact LeadsTo.trans (.invalidate .rfl rect) (ih (pool.invalidate rect))

end Pool

namespace Compositor

variable {P : Type} {c : Compositor P}

theorem leadsTo_openWindow (frame : Rect) (title : String) (style : WindowStyle)
    (flags : WindowFlags) : c.windows.LeadsTo (c.openWindow frame title style flags).2.windows :=
  .edit (.allocate frame title style flags)

theorem windows_closeWindow (id : WindowId) :
    (c.closeWindow id).2.windows = (c.windows.free id).2 := by
  unfold closeWindow
  split
  · rename_i windows closed freed _
    rw [freed]
  · rename_i result windows _ freed _
    rw [freed]

theorem leadsTo_closeWindow (id : WindowId) :
    c.windows.LeadsTo (c.closeWindow id).2.windows := by
  rw [windows_closeWindow]
  exact .edit (.free id)

theorem leadsTo_attach (id : WindowId) (content : P) :
    c.windows.LeadsTo (c.attach id content).2.windows := by
  unfold attach
  split
  · exact .rfl
  · exact .invalidate .rfl _

theorem leadsTo_forward (id : WindowId) (input : P → Window → Checked (P × Bool)) :
    Ensures (c.forward id input) fun result => c.windows.LeadsTo result.2.windows := by
  unfold forward
  split
  · exact .pure .rfl
  · split
    · exact .pure .rfl
    · refine (Ensures.any _).bind fun result _ => .pure ?_
      cases result.2 with
      | false => exact .rfl
      | true => exact .invalidate .rfl _

theorem leadsTo_moveCursor (p : Point) : c.windows.LeadsTo (c.moveCursor p).windows :=
  .invalidate (.invalidate .rfl _) _

theorem leadsTo_setCursorVisible (visible : Bool) :
    c.windows.LeadsTo (c.setCursorVisible visible).windows := by
  unfold setCursorVisible
  split
  · exact .rfl
  · exact .invalidate .rfl _

theorem leadsTo_setPattern (pattern : DesktopPattern) :
    c.windows.LeadsTo (c.setPattern pattern).windows := by
  unfold setPattern
  split
  · exact .rfl
  · exact .invalidate .rfl _

theorem leadsTo_trackMenu {α : Type} (step : MenuBar → Checked (α × MenuBar)) :
    Ensures (c.trackMenu step) fun result => c.windows.LeadsTo result.2.windows :=
  (Ensures.any _).bind fun _ _ => (Ensures.any _).bind fun _ _ => (Ensures.any _).bind fun _ _ =>
    .pure (Pool.leadsTo_reports _ _)

theorem leadsTo_menuMouseMove (p : Point) :
    Ensures (c.menuMouseMove p) fun c' => c.windows.LeadsTo c'.windows :=
  (leadsTo_trackMenu _).bind fun _ leads => .pure leads

end Compositor

end TwinDesk
