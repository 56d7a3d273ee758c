import TwinDesk.Geometry.Rect
import TwinDesk.Input.Buttons
import TwinDesk.Protocol.Command

/-!
# Pointer events

The Main processor samples the pointer once per frame and turns the change since the previous
sample into at most one event. An event crosses the link in the parameter words of a command: the
position in words 0 and 1, kind and buttons in the two bytes of word 2, the horizontal motion in
word 3.
-/

namespace TwinDesk

/-- What the pointer did. -/
inductive PointerKind where
  | none
  | move
  | down
  | up
  | drag
  deriving DecidableEq, Repr, Inhabited

namespace PointerKind

/-- Every kind, by code. -/
def all : List PointerKind := [none, move, down, up, drag]

/-- The byte that stands for the kind. -/
def code : PointerKind → UInt8
  | none => 0
  | move => 1
  | down => 2
  | up => 3
  | drag => 4

/-- The kind that a byte stands for. -/
def ofCode? (byte : UInt8) : Option PointerKind :=
  all.find? (·.code == byte)

/-- The kind's name in listings. -/
def inspect : PointerKind → String
  | none => "None"
  | move => "Move"
  | down => "Down"
  | up => "Up"
  | drag => "Drag"

theorem ofCode?_eq_some_iff {byte : UInt8} {kind : PointerKind} :
    ofCode? byte = some kind ↔ kind.code = byte := by
  constructor
  · intro h
    simpa using List.find?_some h
  · rintro rfl
    cases kind <;> rfl

end PointerKind

/-- One change of the pointer. -/
structure PointerEvent where
  kind : PointerKind
  /-- The buttons held after the event. -/
  buttons : Buttons
  /-- The position on the screen. -/
  pos : Point
  /-- The horizontal motion since the previous sample. -/
  dx : Coord
  deriving DecidableEq, Repr, Inhabited

namespace PointerEvent

/-- Classifies the change between two samples: a newly pressed button wins, then any other change
of buttons is a release, then motion is a drag or a move. -/
def classify? (pos : Point) (buttons previous : Buttons) (dx dy : Coord) :
    Option PointerEvent :=
  if buttons ≠ previous then
    let kind := if (buttons.newlyPressed previous).isEmpty then .up else .down
    some ⟨kind, buttons, pos, dx⟩
  else if dx ≠ 0 ∨ dy ≠ 0 then
    let kind := if buttons.isEmpty then .move else .drag
    some ⟨kind, buttons, pos, dx⟩
  else
    none

/-- The parameter words that carry the event. -/
def toParams (event : PointerEvent) : Params :=
  ⟨event.pos.x.toWord, event.pos.y.toWord,
    (event.kind.code.toUInt16 <<< 8) ||| event.buttons.bits.toUInt16, event.dx.toWord⟩

/-- The event in parameter words; none when the kind byte stands for no kind. -/
def ofParams? (params : Params) : Option PointerEvent :=
  (PointerKind.ofCode? (params.word2 >>> 8).toUInt8).map fun kind =>
    ⟨kind, Buttons.ofBits params.word2.toUInt8, ⟨Coord.ofWord params.word0, Coord.ofWord params.word1⟩,
      Coord.ofWord params.word3⟩

/-- The command that delivers the event. -/
def toCommand (event : PointerEvent) : Command :=
  ⟨.mouseEvent, event.toParams⟩

end PointerEvent

end TwinDesk
