import TwinDesk.Paint.PaintOp

/-!
# A painter that takes notes

It paints nothing and remembers what it was asked to paint.
-/

namespace TwinDesk

/-- A note of one request to a painter. -/
inductive Note where
  | setClip (clip : Rect)
  | resetClip
  | fillPattern (area : Rect) (pattern : DesktopPattern)
  | fillRect (area : Rect) (shade : Shade)
  | text (position : Point) (text : String)
  | windowFrame (id : WindowId)
  | menuBar
  /-- With the index of the open menu. -/
  | dropdown (menu : Nat)
  | cursor (position : Point)
  /-- With the number of bytes that were to be published. -/
  | finish (length : Nat)
  deriving DecidableEq, Repr, Inhabited

/-- The note of a drawing operation; none for a dropdown without an open menu. -/
def PaintOp.note? : PaintOp → Option Note
  | setClip clip => some (.setClip clip)
  | resetClip => some .resetClip
  | fillPattern area pattern => some (.fillPattern area pattern)
  | fillRect area shade => some (.fillRect area shade)
  | text p s => some (.text p s)
  | windowFrame window => some (.windowFrame window.id)
  | menuBar _ => some .menuBar
  | dropdown menus => menus.openMenu?.map .dropdown
  | cursor p => some (.cursor p)

/-- The notes taken so far, oldest first. -/
structure Recording where
  notes : Array Note
  deriving DecidableEq, Repr, Inhabited

namespace Recording

/-- No notes yet. -/
def empty : Recording := ⟨#[]⟩

instance : Painter Recording where
  paint recording op :=
    match op.note? with
    | some note => return ⟨recording.notes.push note⟩
    | none => return recording
  finish recording n bytes := (⟨recording.notes.push (.finish n)⟩, bytes)

/-- The notes of a list of drawing operations. -/
def ofOps (ops : List PaintOp) : Recording :=
  ⟨(ops.filterMap PaintOp.note?).toArray⟩

/-- The windows whose frames were painted, in order. -/
def frames (recording : Recording) : List WindowId :=
  recording.notes.toList.filterMap fun
    | .windowFrame id => some id
    | _ => none

/-- The clips that were set, in order. -/
def clips (recording : Recording) : List Rect :=
  recording.notes.toList.filterMap fun
    | .setClip clip => some clip
    | _ => none

end Recording

end TwinDesk
