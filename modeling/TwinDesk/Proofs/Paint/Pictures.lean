import TwinDesk.Paint.PaintOp

/-!
# Drawing operations as pictures

A painter that decides every pixel by the drawing operation alone is a *picture* for each operation:
the pixels that it paints, with their colors. Painting a list of operations under one clip lays
their pictures over each other, and the last one wins.

* `Pictures.overlay` — several pictures as one.
* `Sheet.paintAll_plain` — painting under one clip.
-/

namespace TwinDesk

/-- A color for every pixel that an operation paints. -/
abbrev Pictures (Color : Type) : Type := PaintOp → Point → Option Color

/-- A screen while it is painted. -/
structure Sheet (Color : Type) where
  pixels : Point → Color
  clip : Rect

namespace PaintOp

/-- Whether the operation leaves the clip alone. -/
def keepsClip : PaintOp → Bool
  | setClip _ | resetClip => false
  | fillPattern _ _ | fillRect _ _ | text _ _ | windowFrame _ | menuBar _ | dropdown _ | cursor _ =>
    true

end PaintOp

variable {Color : Type} {pictures : Pictures Color}

/-- The pictures of some operations, each over the ones before. -/
def Pictures.overlay (pictures : Pictures Color) : List PaintOp → Point → Option Color
  | [], _ => none
  | op :: rest, p => (pictures.overlay rest p).or (pictures op p)

theorem Pictures.overlay_append (ops ops' : List PaintOp) (p : Point) :
    pictures.overlay (ops ++ ops') p = (pictures.overlay ops' p).or (pictures.overlay ops p) := by
  induction ops with
  | nil => rw [List.nil_append, overlay, Option.or_none]
  | cons op rest ih => rw [List.cons_append, overlay, overlay, ih, Option.or_assoc]

namespace Sheet

/-- Lays a picture over the pixels inside the clip. -/
def lay (sheet : Sheet Color) (picture : Point → Option Color) : Sheet Color :=
  { sheet with
    pixels := fun p =>
      if sheet.clip.contains p then (picture p).getD (sheet.pixels p) else sheet.pixels p }

/-- Carries out one operation. -/
def paint (pictures : Pictures Color) (sheet : Sheet Color) : PaintOp → Sheet Color
  | .setClip clip => { sheet with clip }
  | .resetClip => { sheet with clip := Layout.screen }
  | op => sheet.lay (pictures op)

/-- Carries out a list of operations. -/
def paintAll (pictures : Pictures Color) (sheet : Sheet Color) (ops : List PaintOp) : Sheet Color :=
  ops.foldl (paint pictures) sheet

variable {sheet : Sheet Color} {op : PaintOp} {ops ops' : List PaintOp} {p : Point}

theorem paint_plain (plain : op.keepsClip = true) :
    sheet.paint pictures op = sheet.lay (pictures op) := by
  cases op <;> first | rfl | cases plain

theorem paintAll_append : sheet.paintAll pictures (ops ++ ops') =
    (sheet.paintAll pictures ops).paintAll pictures ops' :=
  List.foldl_append

theorem pixels_lay_inside {picture : Point → Option Color} (inside : sheet.clip.contains p = true) :
    (sheet.lay picture).pixels p = (picture p).getD (sheet.pixels p) :=
  if_pos inside

theorem pixels_lay_outside {picture : Point → Option Color}
    (outside : sheet.clip.contains p = false) : (sheet.lay picture).pixels p = sheet.pixels p :=
  if_neg (Bool.eq_false_iff.mp outside)

/-- Two pictures laid one after the other are one picture. -/
theorem lay_lay (first second : Point → Option Color) :
    (sheet.lay first).lay second = sheet.lay fun p => (second p).or (first p) := by
  unfold lay
  congr 1
  funext p
  dsimp only
  cases sheet.clip.contains p with
  | false => rfl
  | true => cases second p <;> rfl

/-- Under one clip the operations are painted as one picture. -/
theorem paintAll_plain (plain : ∀ op ∈ ops, op.keepsClip = true) :
    sheet.paintAll pictures ops = sheet.lay (pictures.overlay ops) := by
  induction ops generalizing sheet with
  | nil =>
    obtain ⟨pixels, clip⟩ := sheet
    simp only [paintAll, lay, Pictures.overlay, List.foldl_nil, Option.getD_none, ite_self]
  | cons op rest ih =>
    obtain ⟨here, later⟩ := List.forall_mem_cons.mp plain
    have first : sheet.paintAll pictures (op :: rest) =
        (sheet.paint pictures op).paintAll pictures rest := rfl
    rw [first, ih later, paint_plain here, lay_lay]
    rfl

end Sheet

end TwinDesk
