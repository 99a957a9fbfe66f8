import ExceptionDispatch.Method.Basic

/-!
# Threads and frames

A frame is a method being executed, at the offset of one of its instructions; a thread has a stack
of frames, of which the first is the current one, and counts the built-in exceptions that it is
constructing.
-/

namespace ExceptionDispatch

/-- A method being executed. -/
structure Frame where
  method : Method
  /-- The offset of the current instruction. -/
  pc : UInt16 := 0
  deriving DecidableEq, Repr

namespace Frame

/-- The source line of the current instruction. Embeds `Frame::line`. -/
def line (frame : Frame) : UInt16 := frame.method.lines.lineAt frame.pc

/-- The catch entries that protect the current instruction. -/
def covering (frame : Frame) : List CatchEntry := frame.method.catches.covering frame.pc

end Frame

/-- A thread of the guest program. -/
structure Thread where
  name : String
  /-- The class whose entry method started the thread. -/
  classId : ClassId
  /-- The call stack, from the current frame to the first. -/
  frames : List Frame := []
  /-- The number of built-in exceptions under construction on the thread. -/
  constructionDepth : UInt16 := 0
  deriving DecidableEq, Repr

namespace Thread

/-- The frame being executed. Embeds `Thread::current_frame`. -/
def current? (thread : Thread) : Option Frame := thread.frames.head?

/-- The number of frames. Embeds `Thread::depth`. -/
def depth (thread : Thread) : Nat := thread.frames.length

/-- The thread with a further frame, which becomes the current one. Embeds `Thread::push_frame`. -/
def push (thread : Thread) (frame : Frame) : Thread :=
  { thread with frames := frame :: thread.frames }

/-- The thread with further frames, of which the last becomes the current one. -/
def pushAll (thread : Thread) (frames : List Frame) : Thread :=
  { thread with frames := frames.reverse ++ thread.frames }

/-- The thread without its current frame. Embeds `Thread::pop_frame`. -/
def pop (thread : Thread) : Thread := { thread with frames := thread.frames.tail }

/-- The thread with as many frames left as given, or with all if it has no more. -/
def truncate (thread : Thread) (depth : Nat) : Thread :=
  { thread with frames := thread.frames.drop (thread.frames.length - depth) }

/-- The thread with its current frame at another instruction. -/
def setPc (thread : Thread) (pc : UInt16) : Thread :=
  match thread.frames with
  | [] => thread
  | frame :: callers => { thread with frames := { frame with pc } :: callers }

/-- Pushing frames adds their number to the depth. -/
@[simp] theorem depth_pushAll (thread : Thread) (frames : List Frame) :
    (thread.pushAll frames).depth = frames.length + thread.depth := by
  simp [pushAll, depth]

/-- Frames pushed on a stack are gone when the stack is cut to the depth it had. -/
theorem truncate_pushAll (thread : Thread) (frames : List Frame) :
    (thread.pushAll frames).truncate thread.depth = thread := by
  simp [truncate, pushAll, depth]

/-- Moving the current frame keeps the depth. -/
@[simp] theorem depth_setPc (thread : Thread) (pc : UInt16) :
    (thread.setPc pc).depth = thread.depth := by
  unfold setPc depth
  split <;> simp_all

end Thread

end ExceptionDispatch
