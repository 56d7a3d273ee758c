import TwinDesk.Proofs.Desktop.Cursor
import TwinDesk.Proofs.Desktop.Room
import TwinDesk.Proofs.Display.Safe
import TwinDesk.Proofs.Handoff.Banks
import TwinDesk.Proofs.Sub.Execution

/-!
# The painter

The Sub processor carries out the commands of a frame loop. For a frame it takes hold of the bank
that nobody sees, paints, gives the bank away and waits until the chip has exchanged the banks; only
then it replies. Meanwhile the Main processor waits, and the chip may complete the exchange at any
moment.

* `Handed` — between two frames: the last one lies in the bank that the Main processor sees.
* `handFrame_outline` — one more frame is handed over.
* `execute_outline` — every command is carried out, and a frame is painted whenever it is asked for.
-/

namespace TwinDesk

open Handshake Program

namespace Handoff

variable {start : Bool} {ps : List Paint}

/-! ## While a command is carried out -/

/-- What holds of the memory mode, of the banks and of what was painted. -/
@[reducible] def Memory : Type := MemMode → Vector BankCell 2 → List Paint → Prop

/-- What holds of the link and of the memory. -/
structure With (L : Handshake.World session → Prop) (X : Memory) (w : World start) : Prop where
  link : L w.link
  memory : X w.mode w.banks w.paints

/-- What the Sub processor leaves behind whenever it is inside of a call that began with these
frames painted. -/
structure Serving (ps : List Paint) (w : World start) : Prop where
  painted : ps <+: w.paints
  past : w.link.course.framesPast ≤ ps.length

/-- What holds of the memory outlasts the completion of an exchange, and `ps` were painted. -/
structure Memory.Stays (ps : List Paint) (X : Memory) : Prop where
  complete : ∀ {mode banks paints}, mode.returning = true → X mode banks paints →
    X mode.complete banks paints
  painted : ∀ {mode banks paints}, X mode banks paints → ps <+: paints

/-- What holds of the link while a command is carried out that came after the frames `ps`. -/
structure Working (ps : List Paint) (L : Handshake.World session → Prop) : Prop where
  stable : (handshake session).Stable .sub L
  acked : ∀ {link}, L link → link.course.stage = .acked
  past : ∀ {link}, L link → link.course.framesPast ≤ ps.length

section

variable {L : Handshake.World session → Prop} {X : Memory}

/-- The Main processor is waiting, so all that may happen is that an exchange is completed. -/
theorem With.stable (stays : X.Stays ps) (stable : (handshake session).Stable .sub L)
    (acked : ∀ {link}, L link → link.course.stage = .acked) :
    (rules start).Stable .sub (With L X) := by
  rintro w w' ⟨move, painted, mode, banks⟩ ⟨link, memory⟩
  refine ⟨stable move link, ?_⟩
  have busy : w.link.course.stage ≠ .rest := by
    rw [acked link]
    decide
  rw [painted, banks busy]
  rcases mode with same | ⟨pending, done⟩
  · rw [same]
    exact memory
  · rw [done]
    refine stays.complete ?_ memory
    rwa [MemMode.pending, w.quiet, Bool.or_false] at pending

theorem With.rests (working : Working ps L) (stays : X.Stays ps) :
    (rules start).Rests .sub (Serving ps) (With L X) :=
  ⟨With.stable stays working.stable working.acked,
    fun _ h => ⟨stays.painted h.memory, working.past h.link⟩⟩

/-- A bus cycle that works on the memory. -/
theorem memory_performs {a : Access} {X' : a.Answer → Memory} (working : Working ps L)
    (performs : ∀ w : World start, X w.mode w.banks w.paints →
      ∃ answer mode banks paints,
        w.chip.perform .sub a = .ok (answer, w.link.chip.withMemory mode banks) ∧
        mode.requesting = false ∧ (∀ paint ∈ paints, paint.rects ≤ Layout.maxDirtyRects) ∧
        w.paints <+: paints ∧ X' answer mode banks paints) :
    (rules start).Performs .sub a (With L X) fun answer => With L (X' answer) := by
  intro w h
  obtain ⟨answer, mode, banks, paints, eq, quiet, small, more, post⟩ := performs w h.memory
  have acked := working.acked h.link
  exact ⟨answer, w.painting acked mode banks paints small quiet, eq,
    w.painting_moves acked mode banks small quiet more, h.link, post⟩

/-- A command is being carried out. -/
def Engaged (link : Handshake.World session) : Prop :=
  link.course.stage = .acked

/-- Only the Sub processor ends the carrying out of a command. -/
theorem engaged_stable : (handshake session).Stable .sub Engaged := by
  rintro link link' ⟨-, lingers | advances⟩ engaged
  · rw [Engaged, lingers.course]
    exact engaged
  · have mover := advances.step.mover
    rw [engaged] at mover
    cases mover

/-- A command is being carried out, and all frames that are past were painted. -/
structure Busy (ps : List Paint) (c : Course) : Prop where
  acked : c.stage = .acked
  past : c.framesPast ≤ ps.length

/-- Plain bus cycles leave the memory alone. -/
theorem plain_outline {α : Type} {p : Program α} (uses : p.Uses Access.Plain)
    {L' : α → Handshake.World session → Prop} (outline : Outlined session .sub (Busy ps) p L L')
    (begins : ∀ link, L link → Engaged link) (last : ∀ value link, L' value link → Engaged link)
    (stays : X.Stays ps) :
    (rules start).Outline .sub (Serving ps) p (With L X) fun value => With (L' value) X := by
  have stable : (rules start).Stable .sub (With Engaged X) :=
    .stable stays engaged_stable fun acked => acked
  refine ((lift uses (fun _ plain => plain) outline stable (fun _ busy => busy.acked) last
    ?_).relax fun w h => ?_).weaken (fun w h => ?_) fun value w h => ⟨h.1, h.2.memory⟩
  · exact fun w link _ _ _ framed acked =>
      ⟨fun other => absurd acked other, acked, framed.memory⟩
  · exact ⟨stays.painted h.2.memory, h.1.past⟩
  · exact ⟨h.link, begins _ h.link, h.memory⟩

end

/-! ## The memory during a frame -/

/-- No exchange is under way. -/
def Settled (select : Bool) (mode : MemMode) : Prop :=
  mode.returning = false ∧ mode.select = select

/-- An exchange is asked for, and the chip may have completed it already. -/
def Asked (select : Bool) (mode : MemMode) : Prop :=
  (mode.returning = true ∧ mode.select = select) ∨ Settled (!select) mode

section

variable (start : Bool) (ps : List Paint)

/-- The bank for the next frame. -/
def canvasBank : Bank :=
  Side.sub.bank (selection start ps.length)

/-- Between two frames: the last one is delivered, and nobody is inside of a bank. -/
structure Handed (mode : MemMode) (banks : Vector BankCell 2) (paints : List Paint) : Prop
    extends Delivered start ps mode banks where
  vacant : Vacant banks
  painted : paints = ps

/-- The Sub processor is inside of its bank. -/
structure Inside (mode : MemMode) (banks : Vector BankCell 2) (paints : List Paint) : Prop where
  settled : Settled (selection start ps.length) mode
  vacant : ∀ bank, bank ≠ canvasBank start ps → (cell banks bank).occupied = false
  painted : paints = ps

/-- One more frame is painted, but not delivered yet. -/
structure Finished (paint : Paint) (phase : MemMode → Prop) (mode : MemMode)
    (banks : Vector BankCell 2) (paints : List Paint) : Prop where
  phase : phase mode
  vacant : Vacant banks
  frame : (cell banks (canvasBank start ps)).bytes.frame = paint.frame
  painted : paints = ps ++ [paint]

end

theorem Handed.stays {ps' : List Paint} (more : ps <+: ps') :
    Memory.Stays ps (Handed start ps') where
  complete waits h := by
    rw [h.returned] at waits
    cases waits
  painted h := h.painted ▸ more

theorem Inside.stays : Memory.Stays ps (Inside start ps) where
  complete waits h := by
    rw [h.settled.1] at waits
    cases waits
  painted h := h.painted ▸ List.prefix_rfl

/-- The memory of a frame outlasts whatever its phase outlasts. -/
theorem Finished.stays {paint : Paint} {phase : MemMode → Prop}
    (complete : ∀ {mode}, mode.returning = true → phase mode → phase mode.complete) :
    Memory.Stays ps (Finished start ps paint phase) where
  complete waits h := ⟨complete waits h.phase, h.vacant, h.frame, h.painted⟩
  painted h := h.painted ▸ List.prefix_append _ _

theorem not_settled_of_waits {select : Bool} {mode : MemMode} (waits : mode.returning = true) :
    ¬ Settled select mode := by
  rintro ⟨settled, -⟩
  rw [waits] at settled
  cases settled

theorem asked_complete {select : Bool} {mode : MemMode} (waits : mode.returning = true)
    (asked : Asked select mode) : Asked select mode.complete := by
  rcases asked with ⟨-, same⟩ | settled
  · exact .inr ⟨rfl, congrArg not same⟩
  · exact absurd settled (not_settled_of_waits waits)

/-- Once the exchange is complete, the frame is delivered. -/
theorem Finished.handed {paint : Paint} {mode : MemMode} {banks : Vector BankCell 2}
    {paints : List Paint}
    (h : Finished start ps paint (Asked (selection start ps.length)) mode banks paints)
    (returned : mode.returning = false) : Handed start (ps ++ [paint]) mode banks paints := by
  obtain ⟨_ | ⟨-, flipped⟩, vacant, frame, painted⟩ := h
  · simp_all
  have select : mode.select = selection start (ps ++ [paint]).length := by
    rw [flipped, List.length_append, List.length_singleton, selection_succ]
  refine ⟨⟨returned, select, ?_⟩, vacant, painted⟩
  intro last mem
  obtain rfl : paint = last := by simpa using mem
  rw [flipped, Side.bank_not, ← Side.bank_peer]
  exact frame

/-! ## Painting a frame -/

section

variable {L : Handshake.World session → Prop} (working : Working ps L)
include working

/-- The Sub processor enters its bank. -/
theorem enterCanvas_performs :
    (rules start).Performs .sub (.enterBank (canvasBank start ps)) (With L (Handed start ps))
      fun _ => With L (Inside start ps) := by
  refine memory_performs working fun w h => ?_
  refine ⟨_, w.mode, _, w.paints, w.perform_enter (h.vacant _), w.quiet, w.small, List.prefix_rfl,
    ⟨h.returned, h.select⟩, fun bank ne => ?_, h.painted⟩
  rw [cell_enter, if_neg ne]
  exact h.vacant bank

/-- It leaves the bank with the frame in it. -/
theorem leaveCanvas_performs (paint : Paint) {bytes : BankBytes}
    (small : paint.rects ≤ Layout.maxDirtyRects) (frame : bytes.frame = paint.frame) :
    (rules start).Performs .sub (.leaveBank (canvasBank start ps) bytes) (With L (Inside start ps))
      fun _ => With L (Finished start ps paint (Settled (selection start ps.length))) := by
  refine memory_performs working fun w h => ?_
  refine ⟨(), w.mode, _, ps ++ [paint], w.perform_leave _ bytes, w.quiet, ?_, ?_, h.settled,
    fun bank => ?_, ?_, rfl⟩
  · intro other mem
    rcases List.mem_append.mp mem with old | new
    · exact w.small other (h.painted ▸ old)
    · obtain rfl := List.mem_singleton.mp new
      exact small
  · rw [h.painted]
    exact List.prefix_append _ _
  · rw [cell_leave]
    split
    · rfl
    · exact h.vacant bank ‹_›
  · rw [cell_leave, if_pos rfl]
    exact frame

/-- It gives the bank away. On some chips the exchange is complete at once. -/
theorem requestSwap_outline {paint : Paint} :
    (rules start).Outline .sub (Serving ps) (Side.sub.setModeBits Side.sub.swapBit)
      (With L (Finished start ps paint (Settled (selection start ps.length))))
      fun _ => With L (Finished start ps paint (Asked (selection start ps.length))) := by
  have settled {phase : MemMode → Prop} (known : ∀ mode, phase mode → mode.returning = false) :
      (rules start).Rests .sub (Serving ps) (With L (Finished start ps paint phase)) :=
    With.rests working (Finished.stays fun waits h => by simp [known _ h] at waits)
  have read : (rules start).Outline .sub (Serving ps) (readWord Register.memMode)
      (With L (Finished start ps paint (Settled (selection start ps.length))))
      fun word => With L (Finished start ps paint fun mode =>
        Settled (selection start ps.length) mode ∧ mode.word = word) := by
    refine (readMode_outline (settled fun _ h => h.1)).weaken (fun _ h => h) ?_
    rintro _ w ⟨h, rfl⟩
    exact ⟨h.link, ⟨h.memory.phase, rfl⟩, h.memory.vacant, h.memory.frame, h.memory.painted⟩
  have write (word : UInt16) : (rules start).Outline .sub (Serving ps)
      (writeWord Register.memMode (word ||| (Side.sub.swapBit &&& Side.sub.modeWritable)))
      (With L (Finished start ps paint fun mode =>
        Settled (selection start ps.length) mode ∧ mode.word = word))
      fun _ => With L (Finished start ps paint (Asked (selection start ps.length))) := by
    refine .cycle (settled fun _ h => h.1.1) (memory_performs working fun w h => ?_)
    obtain ⟨⟨⟨returned, select⟩, rfl⟩, vacant, frame, painted⟩ := h
    obtain ⟨requesting, phase⟩ := w.mode.write_returnBit w.link.chip.automatic returned
    rw [select] at phase
    exact ⟨(), _, w.banks, w.paints, w.perform_writeMode _, requesting.trans w.quiet, w.small,
      List.prefix_rfl, phase, vacant, frame, painted⟩
  exact read.bind fun word => write word

/-- It waits until the chip has completed the exchange. -/
theorem waitSwap_outline {paint : Paint} (bank : Bank) :
    (rules start).Outline .sub (Serving ps) (PendingSwap.wait ⟨.sub, bank⟩)
      (With L (Finished start ps paint (Asked (selection start ps.length))))
      fun _ => With L (Handed start (ps ++ [paint])) := by
  have rests : (rules start).Rests .sub (Serving ps)
      (With L (Finished start ps paint (Asked (selection start ps.length)))) :=
    With.rests working (Finished.stays asked_complete)
  have handed : (rules start).Rests .sub (Serving ps) (With L (Handed start (ps ++ [paint]))) :=
    With.rests working (Handed.stays (List.prefix_append _ _))
  refine .await rests (fun w h => ⟨w, rfl, w.still .sub, h⟩)
    ((swapRequested_outline rests).bind ?_)
  rintro (_ | _)
  · refine ((currentBank_outline handed).strengthen fun w h => ?_).bind fun bank =>
      .done fun w h => h.1
    exact ⟨h.1.link, h.1.memory.handed h.2.symm⟩
  · exact .done fun w h => h.1

theorem swap_outline {paint : Paint} (bank : Bank) :
    (rules start).Outline .sub (Serving ps) (Grant.swap ⟨.sub, bank⟩)
      (With L (Finished start ps paint (Settled (selection start ps.length))))
      fun _ => With L (Handed start (ps ++ [paint])) := by
  have begun : (rules start).Outline .sub (Serving ps) (Grant.beginSwap ⟨.sub, bank⟩)
      (With L (Finished start ps paint (Settled (selection start ps.length))))
      fun pending w => pending = ⟨.sub, bank⟩ ∧
        With L (Finished start ps paint (Asked (selection start ps.length))) w := by
    show (rules start).Outline .sub (Serving ps) ((Side.sub.setModeBits Side.sub.swapBit).bind
      fun _ => done (PendingSwap.mk .sub bank)) _ _
    exact (requestSwap_outline working).bind fun _ => .done fun w h => ⟨rfl, h⟩
  refine begun.bind fun pending => .assuming ?_
  rintro rfl
  exact waitSwap_outline working bank

end

/-! ### The dispatcher -/

/-- What holds of the desktop of a dispatcher at all times. -/
structure Orderly (desktop : Desktop) : Prop where
  sound : desktop.Sound
  fits : desktop.Fits

theorem frame_copyTo (canvas : Canvas) (bytes : BankBytes) :
    BankBytes.frame (canvas.copyTo bytes) = canvas.frame := by
  have room : Layout.frameBytes ≤ Layout.bankSize := Layout.frameBytes_le_bankSize
  unfold Canvas.copyTo BankBytes.frame replaceFront
  rw [dif_pos room]
  ext i hi
  rw [Vector.getElem_cast, Vector.getElem_take, Vector.getElem_cast, Vector.getElem_append_left hi]

/-- What painting leaves of a desktop: it has another compositor, without any damage. -/
structure Painted (desktop : Desktop) (compositor : Compositor StandIn) : Prop where
  orderly : Orderly { desktop with compositor }
  clean : compositor.pendingDamage = 0
  cursor : compositor.cursor = desktop.compositor.cursor

/-- The damage is painted on the bytes. -/
theorem paintInto_yields {d : Dispatcher Canvas} (orderly : Orderly d.desktop)
    (bytes : BankBytes) :
    Yields (d.paintInto bytes) fun result => ∃ compositor painter,
      result.1 = { d with desktop.compositor := compositor, painter } ∧
      Painted d.desktop compositor ∧ result.2.frame = painter.frame := by
  obtain ⟨⟨ops, compositor⟩, eq, sound⟩ :=
    Compositor.paint_yields StandIn.keepsGood orderly.sound
  have fits := Compositor.paint_fits _ eq
  have clean := Compositor.paint_clears _ eq
  have cursor := d.desktop.compositor.paint_cursor _ eq
  unfold Dispatcher.paintInto
  rw [eq]
  refine (Canvas.paintAll_yields d.painter sound.1).bind fun painter _ => .pure ?_
  exact ⟨compositor, painter, rfl, ⟨⟨sound.2, fits⟩, clean, cursor⟩, frame_copyTo painter bytes⟩

/-- The result words tell how much damage of a dispatcher waits to be painted. -/
def Counted (d : Dispatcher Canvas) (own : GateArray.Workspace) : Prop :=
  Tells own.results d.desktop.compositor.pendingDamage

section

variable {A : Course → Prop} (acked : ∀ c, A c → c.stage = .acked)
  (past : ∀ c, A c → c.framesPast ≤ ps.length)
include acked past

theorem working_at {room : Nat} {R : GateArray.Workspace → Prop} :
    Working ps (At .sub A room R) where
  stable := At.stable (outlasts_of_mover fun c h => by rw [acked c h]; rfl)
  acked h := acked _ h.course
  past h := past _ h.course

/-- A result word is left for the reply. -/
theorem note_outline {X : Memory} (stays : X.Stays ps) {index : Nat} (h : index < 8)
    (value : UInt16) {R : GateArray.Workspace → Prop} :
    (rules start).Outline .sub (Serving ps) (SubRegisters.writeResult index value)
      (With (At .sub A pace fun own => R { own with results := own.results.set index value }) X)
      fun _ => With (At .sub A pace R) X := by
  have write : Outlined session .sub (Busy ps) (SubRegisters.writeResult index value)
      (At .sub A pace fun own => R { own with results := own.results.set index value })
      fun _ => At .sub A pace R :=
    (writeResult_outline value h (.of_stage .acked rfl acked fun c h => ⟨acked c h, past c h⟩)
      acked).weaken (fun _ h => h.mono (fun _ h => h) (show 63 + 1 ≤ pace by decide))
      fun _ _ h => at_refresh h
  exact plain_outline (SubRegisters.writeResult_plain _ _) write
    (fun _ h => acked _ h.course) (fun _ _ h => acked _ h.course) stays

/-- The Sub processor paints on its bank. -/
theorem paint_outline {R : GateArray.Workspace → Prop} {d : Dispatcher Canvas}
    (orderly : Orderly d.desktop) :
    (rules start).Outline .sub (Serving ps)
      (Grant.withBytes ⟨.sub, canvasBank start ps⟩ d.paintInto)
      (With (At .sub A pace R) (Handed start ps))
      fun d' w => ∃ compositor painter,
        (d' = { d with desktop.compositor := compositor, painter } ∧
          Painted d.desktop compositor) ∧
        With (At .sub A pace R)
          (Finished start ps ⟨painter.frame, d.desktop.compositor.pendingDamage⟩
            (Settled (selection start ps.length))) w := by
  have working : Working ps (At .sub A pace R : Handshake.World session → Prop) :=
    working_at acked past
  refine withBytes_outline (With.rests working (Handed.stays List.prefix_rfl))
    (enterCanvas_performs working) (fun _ => With.rests working Inside.stays) fun bytes => ?_
  obtain ⟨⟨d', bytes'⟩, eq, compositor, painter, rfl, after, frame⟩ :=
    paintInto_yields orderly bytes
  refine ⟨_, bytes', eq, fun w h => ?_⟩
  obtain ⟨answer, w', performed, move, post⟩ :=
    leaveCanvas_performs working ⟨painter.frame, _⟩ orderly.fits frame w h
  exact ⟨answer, w', performed, move, compositor, painter, ⟨rfl, after⟩, post⟩

/-- One more frame is painted and handed over. -/
theorem handFrame_outline {d : Dispatcher Canvas} (orderly : Orderly d.desktop) :
    (rules start).Outline .sub (Serving ps) d.renderFrame
      (With (At .sub A pace anything) (Handed start ps))
      fun result w => ∃ compositor painter,
        (result = (.ok d.desktop.compositor.pendingDamage,
            { d with desktop.compositor := compositor, painter, frames := d.frames + 1 }) ∧
          Painted d.desktop compositor) ∧
        With (At .sub A pace (Counted d))
          (Handed start (ps ++ [⟨painter.frame, d.desktop.compositor.pendingDamage⟩])) w := by
  have working : Working ps (At .sub A pace (Counted d) : Handshake.World session → Prop) :=
    working_at acked past
  -- up to the painting, the last frame stays delivered; the count then outlasts the painting
  have before : Memory.Stays ps (Handed start ps) := Handed.stays List.prefix_rfl
  have rendering : (rules start).Outline .sub (Serving ps)
      (SubRegisters.writeResult 0 Lifecycle.rendering.word)
      (With (At .sub A pace anything) (Handed start ps))
      fun _ => With (At .sub A pace anything) (Handed start ps) :=
    (note_outline acked past before (show 0 < 8 by decide) _).strengthen fun _ h => h
  have counted : (rules start).Outline .sub (Serving ps)
      (SubRegisters.writeResult 1 (UInt16.ofNat d.desktop.compositor.pendingDamage))
      (With (At .sub A pace anything) (Handed start ps))
      fun _ => With (At .sub A pace (Counted d)) (Handed start ps) := by
    refine (note_outline acked past before (show 1 < 8 by decide) _).strengthen fun w h => ?_
    refine ⟨h.link.weaken (fun h => h) (Nat.le_refl _) fun own _ => ?_, h.memory⟩
    exact Vector.getElem?_set_self (by decide)
  have acquire : (rules start).Outline .sub (Serving ps) (Grant.acquire .sub)
      (With (At .sub A pace (Counted d)) (Handed start ps))
      fun result w => result = .ok ⟨.sub, canvasBank start ps⟩ ∧
        With (At .sub A pace (Counted d)) (Handed start ps) w :=
    acquire_outline (With.rests working before) (fun w h => h.memory.returned)
      fun w h => congrArg _ h.memory.select
  refine rendering.bind fun _ => counted.bind fun _ => acquire.bind fun result => .assuming ?_
  rintro rfl
  refine (paint_outline acked past orderly).bind fun d' =>
    .of_exists fun compositor => .of_exists fun painter => .assuming ?_
  rintro ⟨rfl, after⟩
  have ready : (rules start).Outline .sub (Serving ps)
      (SubRegisters.writeResult 0 Lifecycle.ready.word)
      (With (At .sub A pace (Counted d))
        (Handed start (ps ++ [⟨painter.frame, d.desktop.compositor.pendingDamage⟩])))
      fun _ => With (At .sub A pace (Counted d))
        (Handed start (ps ++ [⟨painter.frame, d.desktop.compositor.pendingDamage⟩])) := by
    refine (note_outline acked past (Handed.stays (List.prefix_append _ _))
      (show 0 < 8 by decide) _).strengthen fun w h => ?_
    refine ⟨h.link.weaken (fun h => h) (Nat.le_refl _) fun own known => ?_, h.memory⟩
    exact (Vector.getElem?_set_ne (by decide) (by decide)).trans known
  show (rules start).Outline .sub (Serving ps)
    (((Grant.swap ⟨.sub, canvasBank start ps⟩).bind fun _ => done ()).bind _) _ _
  rw [Program.bind_assoc]
  exact (swap_outline working _).bind fun _ => ready.bind fun _ =>
    .done fun w h => ⟨compositor, painter, ⟨rfl, after⟩, h⟩

end

/-! ## Carrying commands out -/

/-- How many damaged rectangles waited to be painted, and do not wait any more. -/
def consumed (d d' : Dispatcher Canvas) : Nat :=
  d.desktop.compositor.pendingDamage - d'.desktop.compositor.pendingDamage

/-- What an observer notes of a call: a frame was painted if the frame counter has moved. It is the
back buffer after the call. -/
def noted (paints : List Paint) (d d' : Dispatcher Canvas) : List Paint :=
  if d'.frames = d.frames then paints else paints ++ [⟨d'.painter.frame, consumed d d'⟩]

/-- A request is done: a frame was painted if it asked for one, and the cursor was moved if it
delivered a pointer event. -/
structure Executed (ps : List Paint) (requests : List Request) (request : Request)
    (d : Dispatcher Canvas) (status : Status) (d' : Dispatcher Canvas) : Prop where
  orderly : Orderly d'.desktop
  responder : d'.responder = d.responder
  unreleased : d'.unreleased = d.unreleased
  done : status = .done
  grown : ps <+: noted ps d d'
  count : (noted ps d d').length = framesIn (requests ++ [request])
  cursor : d'.desktop.compositor.cursor =
    (request.event?.map (·.pos)).getD d.desktop.compositor.cursor

/-- The reply to a frame tells how many rectangles were painted. -/
def Replies (request : Request) (paints : List Paint) (own : GateArray.Workspace) : Prop :=
  request.isFrame = true → ∀ paint ∈ paints.getLast?, Tells own.results paint.rects

/-- What carrying a request out leads to: the reply is ready, and the frame is handed over. -/
def CarriedOut (ps : List Paint) (requests : List Request) (replies : List Reply)
    (request : Request) (d : Dispatcher Canvas) (result : Status × Dispatcher Canvas)
    (w : World start) : Prop :=
  Executed ps requests request d result.1 result.2 ∧
    With (At .sub (Handling .acked requests replies request) pace
        (Replies request (noted ps d result.2)))
      (Handed start (noted ps d result.2)) w

theorem noted_same {d d' : Dispatcher Canvas} (same : d'.frames = d.frames) :
    noted ps d d' = ps :=
  if_pos same

theorem noted_next {d d' : Dispatcher Canvas} (next : d'.frames = d.frames + 1) :
    noted ps d d' = ps ++ [⟨d'.painter.frame, consumed d d'⟩] := by
  refine if_neg ?_
  rw [next]
  simp

/-- No more frames are past than these requests asked for, if no more requests are past. -/
theorem past_of_known {requests : List Request} {c : Course} (count : framesIn requests ≤ ps.length)
    (known : requests <+: c.requests) (past : c.past = requests.length) :
    c.framesPast ≤ ps.length := by
  rw [framesPast_of_known known past]
  exact count

section

variable {requests : List Request} {replies : List Reply} (count : ps.length = framesIn requests)
include count

theorem past_of_handling (even : requests.length = replies.length) {request : Request} {c : Course}
    (h : Handling .acked requests replies request c) : c.framesPast ≤ ps.length := by
  refine past_of_known (Nat.le_of_eq count.symm) (h.asked ▸ List.prefix_append _ _) ?_
  rw [Course.past, h.stage, h.answered, even]

/-- The parameters that are read are those of the request. -/
theorem readParams_outline (even : requests.length = replies.length) (request : Request) :
    (rules start).Outline .sub (Serving ps) SubRegisters.readParams
      (With (At .sub (Handling .acked requests replies request) pace anything) (Handed start ps))
      fun params w => request.params = params ∧
        With (At .sub (Handling .acked requests replies request) pace anything) (Handed start ps)
          w := by
  have acked (c : Course) (h : Handling .acked requests replies request c) : c.stage = .acked :=
    h.stage
  have busy (c : Course) (h : Handling .acked requests replies request c) : Busy ps c :=
    ⟨h.stage, past_of_handling count even h⟩
  have reads : Outlined session .sub (Busy ps) SubRegisters.readParams
      (At .sub (Handling .acked requests replies request) (60 + 4) anything)
      fun params =>
        At .sub (Reading (Handling .acked requests replies request) (· = params)) 60 anything :=
    Handshake.readParams_outline (handling_standing rfl busy) acked
  refine (plain_outline SubRegisters.readParams_plain reads (fun _ h => acked _ h.course)
    (fun _ _ h => acked _ h.course.1) (Handed.stays List.prefix_rfl)).weaken (fun _ h => h) ?_
  intro params w h
  obtain ⟨asked, last⟩ := h.link.course
  refine ⟨last request ?_, at_refresh ⟨asked, h.link.room, h.link.own⟩, h.memory⟩
  rw [asked.asked]
  exact List.getLast?_concat

variable {d : Dispatcher Canvas} (orderly : Orderly d.desktop)
include orderly

/-- A pointer event changes the desktop, and nothing is painted. -/
theorem performPointer_outline {params : Params} {event : PointerEvent}
    (known : PointerEvent.ofParams? params = some event) :
    (rules start).Outline .sub (Serving ps) (d.perform .mouseEvent params)
      (With (At .sub (Handling .acked requests replies ⟨Opcode.mouseEvent.code, params⟩) pace
        anything) (Handed start ps))
      (CarriedOut ps requests replies ⟨Opcode.mouseEvent.code, params⟩ d) := by
  obtain ⟨⟨desktop, launcher⟩, eq, sound⟩ :=
    Desktop.pointerEvent_yields orderly.sound d.launcher event
  have fits := Desktop.pointerEvent_fits orderly.fits d.launcher event _ eq
  have moved := d.desktop.pointerEvent_cursor d.launcher event _ eq
  have delivered : Request.event? ⟨Opcode.mouseEvent.code, params⟩ = some event :=
    event?_eq_some_iff.mpr ⟨rfl, known⟩
  unfold Dispatcher.perform
  dsimp only
  rw [known]
  dsimp only
  rw [eq]
  refine .done fun w h => ?_
  let d' : Dispatcher Canvas := { d with desktop, launcher }
  have all : noted ps d d' = ps := noted_same rfl
  refine ⟨⟨⟨sound, fits⟩, rfl, rfl, rfl, ?_, ?_, ?_⟩, ?_⟩
  · rw [all]
  · rw [all, count, framesIn_concat]
    rfl
  · rw [delivered]
    exact moved
  · rw [all]
    exact ⟨h.link.weaken (fun h => h) (Nat.le_refl _) fun _ _ => nofun, h.memory⟩

variable (even : requests.length = replies.length)
include even

/-- A frame is painted on request. -/
theorem performFrame_outline (params : Params) :
    (rules start).Outline .sub (Serving ps) (d.perform .renderFrame params)
      (With (At .sub (Handling .acked requests replies ⟨Opcode.renderFrame.code, params⟩) pace
        anything) (Handed start ps))
      (CarriedOut ps requests replies ⟨Opcode.renderFrame.code, params⟩ d) := by
  have render : (rules start).Outline .sub (Serving ps) d.renderFrame
      (With (At .sub (Handling .acked requests replies ⟨Opcode.renderFrame.code, params⟩) pace
        anything) (Handed start ps)) _ :=
    handFrame_outline (fun _ h => h.stage) (fun _ h => past_of_handling count even h) orderly
  refine render.bind ?_
  rintro ⟨result, d'⟩
  refine .of_exists fun compositor => .of_exists fun painter => .assuming ?_
  rintro ⟨same, after⟩
  obtain ⟨rfl, rfl⟩ := Prod.mk.inj same
  refine .done ?_
  intro w h
  let d' : Dispatcher Canvas :=
    { d with desktop.compositor := compositor, painter, frames := d.frames + 1 }
  have all : noted ps d d' = ps ++ [⟨painter.frame, d.desktop.compositor.pendingDamage⟩] := by
    rw [noted_next rfl, consumed, after.clean, Nat.sub_zero]
  refine ⟨⟨after.orderly, rfl, rfl, rfl, ?_, ?_, after.cursor⟩, ?_⟩
  · rw [all]
    exact List.prefix_append _ _
  · rw [all, List.length_append, List.length_singleton, count, framesIn_concat]
    rfl
  · rw [all]
    refine ⟨h.link.weaken (fun h => h) (Nat.le_refl _) fun own known _ paint mem => ?_, h.memory⟩
    rw [List.getLast?_concat] at mem
    cases mem
    exact known

/-- A request whose opcode is known is carried out with its own parameters. -/
theorem executeKnown_outline {opcode : Opcode} {params : Params}
    (permits : session.Permits ⟨opcode.code, params⟩) :
    (rules start).Outline .sub (Serving ps) (d.execute opcode.code)
      (With (At .sub (Handling .acked requests replies ⟨opcode.code, params⟩) pace anything)
        (Handed start ps))
      (CarriedOut ps requests replies ⟨opcode.code, params⟩ d) := by
  unfold Dispatcher.execute
  rw [Opcode.ofCode?_eq_some_iff.mpr rfl]
  refine (readParams_outline count even ⟨opcode.code, params⟩).bind fun params' => .assuming ?_
  rintro rfl
  rcases permits with frame | ⟨event, delivered⟩
  · obtain rfl : opcode = .renderFrame := Opcode.code_injective (beq_iff_eq.mp frame)
    exact performFrame_outline count orderly even params
  · obtain ⟨pointer, known⟩ := event?_eq_some_iff.mp delivered
    obtain rfl : opcode = .mouseEvent := Opcode.code_injective pointer
    exact performPointer_outline count orderly known

/-- Whatever request of a frame loop was taken up is carried out. -/
theorem execute_outline (raw : UInt8) :
    (rules start).Outline .sub (Serving ps) (d.execute raw)
      (With (At .sub (Unread .acked requests replies raw) pace anything) (Handed start ps))
      fun result w => ∃ request, CarriedOut ps requests replies request d result w := by
  have split (w : World start)
      (h : With (At .sub (Unread .acked requests replies raw) pace anything) (Handed start ps) w) :
      ∃ params, session.Permits ⟨raw, params⟩ ∧
        With (At .sub (Handling .acked requests replies ⟨raw, params⟩) pace anything)
          (Handed start ps) w := by
    obtain ⟨params, handling⟩ := h.link.course
    refine ⟨params, w.link.shows.permitted _ ?_, ⟨handling, h.link.room, h.link.own⟩, h.memory⟩
    rw [handling.asked]
    exact List.mem_concat_self
  refine Rules.Outline.strengthen (.of_exists fun params => .assuming fun permits => ?_) split
  obtain ⟨opcode, rfl⟩ : ∃ opcode : Opcode, raw = opcode.code := by
    rcases permits with frame | ⟨event, delivered⟩
    · exact ⟨.renderFrame, beq_iff_eq.mp frame⟩
    · exact ⟨.mouseEvent, (event?_eq_some_iff.mp delivered).1⟩
  exact (executeKnown_outline count orderly even permits).weaken (fun _ h => h) fun _ _ h => ⟨_, h⟩

end

end Handoff

end TwinDesk
