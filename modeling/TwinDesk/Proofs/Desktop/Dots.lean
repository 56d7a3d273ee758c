import TwinDesk.Proofs.Compositor.Pointing
import TwinDesk.Proofs.Compositor.Tidy
import TwinDesk.Proofs.Desktop.Sound
import TwinDesk.Proofs.Display.WindowFrames
import TwinDesk.Proofs.Window.Pending

/-!
# Dots that are waiting to be painted

A press or a drag that leaves a dot on a sketch reports the content area of its window as damaged.
The dot is shown by a square of three pixels each way, which is not cut to the content area: at the
edge of the area it reaches the border of the window, or the line below the title bar, and of these
pixels nothing is reported.

* `Sketch.Among` — contents among which there are sketches.
* `Compositor.NewestDotWaits` — the square of the newest dot waits to be painted, inside an area.
* `Compositor.dot_waits_in_content` — the content area of the window is such an area.
* `Compositor.edge_dot_on_border` — the whole window is not.
-/

namespace TwinDesk

/-! ## Sketches among other contents -/

namespace Sketch

variable {P : Type} {of : Sketch → P}

/-- Contents of which some are sketches. -/
structure Among [WindowContent P] (of : Sketch → P) : Prop where
  draw (sketch : Sketch) (window : Window) : WindowContent.draw (of sketch) window =
    (WindowContent.draw sketch window).map fun (sketch, ops) => (of sketch, ops)
  click (sketch : Sketch) (window : Window) (p : Point) : WindowContent.click (of sketch) window p =
    (addDot sketch window p).map fun (sketch, changed) => (of sketch, changed)
  drag (sketch : Sketch) (window : Window) (p : Point) : WindowContent.drag (of sketch) window p =
    (addDot sketch window p).map fun (sketch, changed) => (of sketch, changed)

theorem among_standIns : Among StandIn.sketch where
  draw sketch window := by
    show (WindowContent.draw sketch window >>= _) = _
    cases WindowContent.draw sketch window <;> rfl
  click sketch window p := by
    show (addDot sketch window p >>= _) = _
    cases addDot sketch window p <;> rfl
  drag sketch window p := by
    show (addDot sketch window p >>= _) = _
    cases addDot sketch window p <;> rfl

/-! ## Adding a dot -/

variable {sketch sketch' : Sketch} {window : Window} {p : Point}

/-- A dot that is left lies in the content area, and is kept as a distance from its corner. -/
theorem addDot_eq (added : addDot sketch window p = .ok (sketch', true)) :
    window.content.contains p = true ∧ ∃ dot, sketch' = ⟨sketch.dots ++ [dot]⟩ ∧
      dot.x.toInt = p.x.toInt - window.content.left.toInt ∧
      dot.y.toInt = p.y.toInt - window.content.top.toInt := by
  unfold addDot at added
  split at added
  · cases added
  · rename_i inside
    rw [Bool.or_eq_true, not_or, Bool.not_eq_true', Bool.not_eq_false] at inside
    obtain ⟨x, eqX, added⟩ := Checked.bind_eq_ok_iff.mp added
    obtain ⟨y, eqY, added⟩ := Checked.bind_eq_ok_iff.mp added
    cases added
    exact ⟨inside.1, ⟨x, y⟩, rfl, Coord.exact_eq_ok_iff.mp eqX, Coord.exact_eq_ok_iff.mp eqY⟩

/-- The square of a dot that was left at a point is made of the pixels next to the point. -/
theorem square_around (sound : window.Sound) (inside : window.content.contains p = true)
    {dot : Point} (x : dot.x.toInt = p.x.toInt - window.content.left.toInt)
    (y : dot.y.toInt = p.y.toInt - window.content.top.toInt) :
    Yields (square window.content.origin dot) fun area => ∀ q, area.contains q = true ↔
      (p.x.toInt - 1 ≤ q.x.toInt ∧ q.x.toInt ≤ p.x.toInt + 1) ∧
        p.y.toInt - 1 ≤ q.y.toInt ∧ q.y.toInt ≤ p.y.toInt + 1 := by
  have content := sound.content
  have corner : window.content.origin.Within 321 := ⟨content.left, content.top⟩
  obtain ⟨left, top, right, bottom⟩ := content
  unfold Coord.Within at left top right bottom
  rw [Rect.contains_iff_toInt] at inside
  refine (square_yields corner ⟨by omega, by omega⟩).mono ?_
  rintro area ⟨⟨eqL, eqT⟩, eqR, eqB⟩ q
  simp only [Rect.origin] at eqL eqT eqR eqB
  rw [Rect.contains_iff_toInt]
  omega

/-- The newest dot is painted last. -/
theorem getLast?_draw [WindowContent P] (among : Among of) {dots : List Point} {dot : Point}
    {area : Rect} (painted : square window.content.origin dot = .ok area) :
    Ensures (WindowContent.draw (of ⟨dots ++ [dot]⟩) window) fun result =>
      result.2.getLast? = some (.fillRect area .black) := by
  intro result drawn
  rw [among.draw] at drawn
  obtain ⟨⟨sketch, ops⟩, own, rfl⟩ := Checked.map_eq_ok_iff.mp drawn
  obtain ⟨squares, each, eq⟩ := Checked.bind_eq_ok_iff.mp own
  cases eq
  rw [List.mapM_append] at each
  obtain ⟨earlier, -, each⟩ := Checked.bind_eq_ok_iff.mp each
  obtain ⟨last, newest, eq⟩ := Checked.bind_eq_ok_iff.mp each
  cases eq
  rw [List.mapM_cons, painted, List.mapM_nil] at newest
  cases newest
  show ((earlier ++ [area]).map _).getLast? = _
  rw [List.map_append]
  exact List.getLast?_concat

end Sketch

/-! ## Damage after input -/

namespace Compositor

variable {P : Type} {c c' : Compositor P} {id : WindowId} {window : Window} {p : Point}

/-- Input that a content accepts leaves the window as it is, and its content area as damage. -/
theorem forward_accepted {content : P} (known : c.windows.get? id = some window)
    (attached : c.content? id = some content) {input : P → Window → Checked (P × Bool)}
    (accepted : c.forward id input = .ok (.ok true, c')) :
    ∃ content', input content window = .ok (content', true) ∧
      c'.windows.get? id = some window ∧ c'.content? id = some content' ∧
      c'.windows.damage = c.windows.damage.invalidate window.content := by
  obtain ⟨slot, named, known'⟩ := Pool.get?_eq_some_iff.mp known
  have attached' : c.contents.get slot = some content := by
    rwa [content?, named] at attached
  rw [forward, Pool.find?_eq_some_iff.mpr ⟨named, known'⟩] at accepted
  dsimp only at accepted
  rw [attached'] at accepted
  obtain ⟨⟨content', changed⟩, handled, eq⟩ := Checked.bind_eq_ok_iff.mp accepted
  cases eq
  refine ⟨content', handled, ?_, ?_, rfl⟩
  · rw [← known, Pool.get?_eq, Pool.get?_eq]
    exact congrArg _ (congrArg SlotTable.get (Pool.slots_invalidate _))
  · show id.slot?.bind _ = some content'
    rw [named]
    exact SlotTable.get_set_self _ _ _

variable [WindowContent P] {of : Sketch → P} {dots : List Point}

/-- A sketch that accepts a press or a drag has one more dot, and the content area of its window is
reported. -/
theorem dot_of_accepted (among : Sketch.Among of) (known : c.windows.get? id = some window)
    (attached : c.content? id = some (of ⟨dots⟩))
    (accepted : c.click id p = .ok (.ok true, c') ∨ c.drag id p = .ok (.ok true, c')) :
    ∃ sketch, Sketch.addDot ⟨dots⟩ window p = .ok (sketch, true) ∧
      c'.windows.get? id = some window ∧ c'.content? id = some (of sketch) ∧
      c'.windows.damage = c.windows.damage.invalidate window.content := by
  have added {content : P} (handled : (Sketch.addDot ⟨dots⟩ window p).map
      (fun (sketch, changed) => (of sketch, changed)) = .ok (content, true)) :
      ∃ sketch, Sketch.addDot ⟨dots⟩ window p = .ok (sketch, true) ∧ of sketch = content := by
    obtain ⟨⟨sketch, changed⟩, added, same⟩ := Checked.map_eq_ok_iff.mp handled
    obtain ⟨rfl, rfl⟩ := Prod.mk.inj same
    exact ⟨sketch, added, rfl⟩
  rcases accepted with clicked | dragged
  · obtain ⟨content, handled, rest⟩ := forward_accepted known attached clicked
    rw [among.click] at handled
    obtain ⟨sketch, added, rfl⟩ := added handled
    exact ⟨sketch, added, rest⟩
  · obtain ⟨content, handled, rest⟩ := forward_accepted known attached dragged
    rw [among.drag] at handled
    obtain ⟨sketch, added, rfl⟩ := added handled
    exact ⟨sketch, added, rest⟩

/-! ## The newest dot -/

/-- Of an area of the window, the newest dot covers only pixels that wait to be painted. The dot is
shown by the last operation that the content draws. -/
def NewestDotWaits (c : Compositor P) (of : Sketch → P) (id : WindowId) (dots : List Point)
    (area : Window → Rect) : Prop :=
  ∃ window dot square, c.windows.get? id = some window ∧
    c.content? id = some (of ⟨dots ++ [dot]⟩) ∧
    Sketch.square window.content.origin dot = .ok square ∧
    (Ensures (WindowContent.draw (of ⟨dots ++ [dot]⟩) window) fun result =>
      result.2.getLast? = some (.fillRect square .black)) ∧
    ∀ q, (area window).contains q = true → square.contains q = true →
      c.windows.damage.covers q = true

/-- A press or a drag that the sketch in a window accepts leaves one more dot on it, and all of the
content area that the dot covers waits to be painted. Unless the dot is on the edge of that area,
this is all of the window that the dot covers. -/
theorem dot_waits_in_content (among : Sketch.Among of) (arrives : c.Arrives)
    (known : c.windows.get? id = some window) (attached : c.content? id = some (of ⟨dots⟩))
    (accepted : c.click id p = .ok (.ok true, c') ∨ c.drag id p = .ok (.ok true, c')) :
    c'.NewestDotWaits of id dots Window.content ∧
      (window.content.inset.contains p = true → c'.NewestDotWaits of id dots Window.frame) := by
  obtain ⟨sketch, added, known', attached', damage⟩ :=
    dot_of_accepted among known attached accepted
  obtain ⟨inside, dot, rfl, x, y⟩ := Sketch.addDot_eq added
  obtain ⟨slot, -, found⟩ := Pool.get?_eq_some_iff.mp known
  have sound := (arrives.regular.sound slot window found).1
  obtain ⟨square, painted, around⟩ := Sketch.square_around sound inside x y
  have last : Ensures (WindowContent.draw (of ⟨dots ++ [dot]⟩) window) _ :=
    Sketch.getLast?_draw among painted
  have reported : ∀ q, window.content.contains q = true → c'.windows.damage.covers q = true := by
    intro q within
    have framed := sound.frame.contains_of_inset (sound.inset_of_content within)
    rw [damage]
    exact Damage.covers_invalidate_of_contains (sound.frame.contains_screen framed) within
  refine ⟨⟨window, dot, square, known', attached', painted, last, ?_⟩, fun inner => ?_⟩
  · exact fun q within _ => reported q within
  · refine ⟨window, dot, square, known', attached', painted, last, fun q _ covered => ?_⟩
    apply reported
    rw [sound.content.contains_inset_iff (by decide)] at inner
    rw [around] at covered
    rw [Rect.contains_iff_toInt]
    omega

/-- A desktop with one window, which shows a sketch, and nothing that waits to be painted. -/
def sketchpad : Compositor StandIn :=
  let c : Compositor StandIn := .initial
  let c := (c.openWindow ⟨10, 30, 110, 130⟩ "Paint" .document .visible).2
  let c := (c.attach ⟨0⟩ (.sketch .blank)).2
  { c with windows.damage := .clean }

theorem arrives_sketchpad : sketchpad.Arrives := by
  have opened := Arrives.edit (.openWindow ⟨10, 30, 110, 130⟩ "Paint" .document .visible)
    (.start : Arrives (.initial : Compositor StandIn)) rfl
  exact .setDamage .clean (.edit (.attach ⟨0⟩ (.sketch .blank)) opened rfl)

/-- A press in the middle of the sketch. -/
theorem dot_waits_in_content_middle : ∃ c', sketchpad.click ⟨0⟩ ⟨60, 90⟩ = .ok (.ok true, c') ∧
    c'.NewestDotWaits .sketch ⟨0⟩ [] Window.frame := by
  have clicked : sketchpad.click ⟨0⟩ ⟨60, 90⟩ = .ok (.ok true, _) := rfl
  exact ⟨_, clicked, (dot_waits_in_content Sketch.among_standIns arrives_sketchpad rfl rfl
    (.inl clicked)).2 (by decide)⟩

/-- A press on the left edge of the sketch: the dot covers a pixel of the border, which is not
reported. -/
theorem edge_dot_on_border : ∃ c', sketchpad.click ⟨0⟩ ⟨11, 60⟩ = .ok (.ok true, c') ∧
    ¬c'.NewestDotWaits .sketch ⟨0⟩ [] Window.frame := by
  refine ⟨_, rfl, ?_⟩
  rintro ⟨window, dot, square, known, attached, painted, -, covered⟩
  cases known
  cases attached
  cases painted
  have missing := covered ⟨10, 60⟩ (by decide) (by decide)
  revert missing
  decide

end Compositor

end TwinDesk
