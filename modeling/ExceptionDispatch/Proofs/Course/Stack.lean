import ExceptionDispatch.Proofs.Course.Keeps

/-!
# The stack in the course of an operation

A part of dispatch that its caller goes on after leaves the stack as it was. One that ends with a
handler leaves a bottom part of the stack, whose current frame has gone to the handler, and a fatal
error leaves a bottom part of the stack under the frames of the guest code that was running. No
frame that handles everything is ever popped. Main statement: `Course.stackAfter`.
-/

namespace ExceptionDispatch

/-- What is left of a stack after an exception went to a handler at an offset: a frame with an entry
for that handler which protects its current instruction, and the frames below it. No frame that is
gone handles everything. -/
def Redirected (frames : List Frame) (pc : UInt16) (left : List Frame) : Prop :=
  ∃ above frame callers, frames = above ++ frame :: callers ∧
    left = { frame with pc } :: callers ∧
    (∃ entry ∈ frame.method.catches, entry.Protects frame.pc ∧ entry.handlerPc = pc) ∧
    ∀ passed ∈ above, ¬ passed.CatchesAll

/-- What is left of a stack after a fatal error: a bottom part of it, under bottom parts of the
frames of guest code. No frame that is gone handles everything. -/
def Abandoned (codes : List GuestCode) (frames left : List Frame) : Prop :=
  ∃ above callers parts, frames = above ++ callers ∧
    left = List.flatten parts ++ callers ∧
    (∀ part ∈ parts, ∃ code ∈ codes, part <:+ code.frames.reverse) ∧
    ∀ passed ∈ above, ¬ passed.CatchesAll

namespace Redirected

variable {frames pushed left : List Frame} {pc : UInt16}

private theorem cons {frame : Frame} (hframe : ¬ frame.CatchesAll) (h : Redirected frames pc left) :
    Redirected (frame :: frames) pc left := by
  obtain ⟨above, handling, callers, rfl, hleft, hentry, habove⟩ := h
  have hpassed : ∀ passed ∈ frame :: above, ¬ passed.CatchesAll :=
    List.forall_mem_cons.2 ⟨hframe, habove⟩
  exact ⟨frame :: above, handling, callers, rfl, hleft, hentry, hpassed⟩

private theorem of_append (h : Redirected (pushed ++ frames) pc left) :
    (∃ frame kept, left = frame :: kept ++ frames) ∨
      Redirected frames pc left ∧ left.length ≤ frames.length := by
  obtain ⟨above, frame, callers, heq, rfl, hentry, habove⟩ := h
  rcases List.append_eq_append_iff.1 heq with ⟨rest, rfl, hframes⟩ | ⟨rest, rfl, hframes⟩
  · refine .inr ⟨⟨rest, frame, callers, hframes, rfl, hentry, ?_⟩, by simp [hframes]⟩
    intro passed hpassed
    exact habove passed (List.mem_append_right _ hpassed)
  · cases rest with
    | nil =>
      rw [List.nil_append] at hframes
      exact .inr ⟨⟨[], frame, callers, hframes.symm, rfl, hentry, by simp⟩, by simp [← hframes]⟩
    | cons first kept =>
      rw [List.cons_append, List.cons.injEq] at hframes
      exact .inl ⟨{ frame with pc }, kept, by rw [hframes.2, List.cons_append]⟩

end Redirected

namespace Abandoned

variable {codes : List GuestCode} {frames pushed left : List Frame}

private theorem refl (codes : List GuestCode) (frames : List Frame) :
    Abandoned codes frames frames :=
  ⟨[], frames, [], by simp⟩

private theorem cons {frame : Frame} (hframe : ¬ frame.CatchesAll)
    (h : Abandoned codes frames left) :
    Abandoned codes (frame :: frames) left := by
  obtain ⟨above, callers, parts, rfl, hleft, hparts, habove⟩ := h
  have hpassed : ∀ passed ∈ frame :: above, ¬ passed.CatchesAll :=
    List.forall_mem_cons.2 ⟨hframe, habove⟩
  exact ⟨frame :: above, callers, parts, rfl, hleft, hparts, hpassed⟩

private theorem mono {more : List GuestCode} (hcodes : codes ⊆ more)
    (h : Abandoned codes frames left) :
    Abandoned more frames left := by
  obtain ⟨above, callers, parts, hframes, hleft, hparts, habove⟩ := h
  refine ⟨above, callers, parts, hframes, hleft, ?_, habove⟩
  intro part hpart
  obtain ⟨code, hcode, hsuffix⟩ := hparts part hpart
  exact ⟨code, hcodes hcode, hsuffix⟩

private theorem of_append {code : GuestCode} (hcode : code ∈ codes)
    (h : Abandoned codes (code.frames.reverse ++ frames) left) : Abandoned codes frames left := by
  obtain ⟨above, callers, parts, heq, rfl, hparts, habove⟩ := h
  -- What is left either ends below the frames of the guest code or holds some of them.
  rcases List.append_eq_append_iff.1 heq with ⟨rest, rfl, hframes⟩ | ⟨rest, hpushed, rfl⟩
  · refine ⟨rest, callers, parts, hframes, rfl, hparts, ?_⟩
    intro passed hpassed
    exact habove passed (List.mem_append_right _ hpassed)
  · refine ⟨[], frames, parts ++ [rest], rfl, by simp, ?_, by simp⟩
    intro part hpart
    rcases List.mem_append.1 hpart with hmem | hmem
    · exact hparts part hmem
    · rw [List.mem_singleton.1 hmem]
      exact ⟨code, hcode, above, hpushed.symm⟩

end Abandoned

/-- What an exit says of the stack. -/
def StackAfter (start : Execution) : Exit → Execution → Prop
  | .normal, finish => finish.thread.frames = start.thread.frames
  | .unwound handler, finish => Redirected start.thread.frames handler.pc finish.thread.frames
  | .halted (.fatal error), finish =>
    Abandoned start.machine.guestCodes start.thread.frames finish.thread.frames ∧
      ∀ diagnostic, error = .uncaught diagnostic → finish.thread.frames = []
  | .halted (.fault _), _ => True

namespace StackAfter

variable {start middle finish : Execution} {exit : Exit}

private theorem congr (h : StackAfter start exit middle)
    (hframes : finish.thread.frames = middle.thread.frames) : StackAfter start exit finish := by
  cases exit with
  | normal => exact hframes.trans h
  | unwound handler => simpa only [StackAfter, hframes] using h
  | halted halt =>
    cases halt with
    | fatal error => simpa only [StackAfter, hframes] using h
    | fault fault => trivial

private theorem of_frames_eq (h : StackAfter middle exit finish)
    (hframes : middle.thread.frames = start.thread.frames)
    (hcodes : middle.machine.guestCodes ⊆ start.machine.guestCodes) :
    StackAfter start exit finish := by
  cases exit with
  | normal => exact Eq.trans h hframes
  | unwound handler => simpa only [StackAfter, hframes] using h
  | halted halt =>
    cases halt with
    | fatal error =>
      simp only [StackAfter, hframes] at h
      exact ⟨h.1.mono hcodes, h.2⟩
    | fault fault => trivial

/-- A frame that was popped before does not matter. -/
theorem popped {frame : Frame} {callers : List Frame}
    (hframes : start.thread.frames = frame :: callers) (hframe : ¬ frame.CatchesAll)
    (hexit : exit ≠ .normal)
    (h : StackAfter (start.modifyThread Thread.pop) exit finish) :
    StackAfter start (exit.addPopped 1) finish := by
  have hpopped : (start.modifyThread Thread.pop).thread.frames = callers := by
    simp [Thread.pop, hframes]
  cases exit with
  | normal => exact absurd rfl hexit
  | unwound handler =>
    simp only [StackAfter, hpopped] at h
    simpa only [StackAfter, Exit.addPopped, hframes] using h.cons hframe
  | halted halt =>
    cases halt with
    | fatal error =>
      simp only [StackAfter, hpopped] at h
      simp only [StackAfter, Exit.addPopped, hframes]
      exact ⟨h.1.cons hframe, h.2⟩
    | fault fault => trivial

end StackAfter

/-- A stack that is cut to a bottom part of it is that part. -/
theorem Thread.frames_truncate_length {thread : Thread} {pushed frames : List Frame}
    (h : thread.frames = pushed ++ frames) :
    (thread.truncate frames.length).frames = frames := by
  simp [truncate, h]

/-- Guest code that ends without an error takes its frames with it. -/
theorem GuestEnds.stackAfter {start entered acted finish : Execution} {code : GuestCode}
    {inner exit : Exit} (hcode : code ∈ start.machine.guestCodes)
    (hframes : entered.thread.frames = code.frames.reverse ++ start.thread.frames)
    (hcodes : entered.machine.guestCodes ⊆ start.machine.guestCodes)
    (hacted : StackAfter entered inner acted)
    (hends : GuestEnds start.thread.depth acted inner exit finish) :
    StackAfter start exit finish := by
  cases hends with
  | returned =>
    exact Thread.frames_truncate_length (Eq.trans hacted hframes)
  | caught handler hdepth =>
    simp only [StackAfter, hframes] at hacted
    rcases hacted.of_append with ⟨frame, kept, hleft⟩ | ⟨-, hlength⟩
    · exact Thread.frames_truncate_length hleft
    · exact absurd hdepth (Nat.not_lt.2 hlength)
  | unwound handler hdepth =>
    simp only [StackAfter, hframes] at hacted
    rcases hacted.of_append with ⟨frame, kept, hleft⟩ | ⟨hredirected, hlength⟩
    · simp only [Thread.depth, hleft, List.length_append, List.length_cons] at hdepth
      omega
    · have hdrop : acted.thread.frames.length - start.thread.frames.length = 0 := by omega
      simpa [StackAfter, Thread.truncate, Thread.depth, hdrop] using hredirected
  | halted halt =>
    cases halt with
    | fatal error =>
      simp only [StackAfter, hframes] at hacted
      exact ⟨(hacted.1.mono hcodes).of_append hcode, hacted.2⟩
    | fault fault => trivial

/-- Every part of dispatch leaves the stack as its exit says. -/
theorem Course.stackAfter {bound raises : Nat} {object? : Option ObjectRef}
    {start finish : Execution} {exit : Exit}
    (h : Course bound object? raises start exit finish) : StackAfter start exit finish := by
  induction h with
  | refl => rfl
  | trans hfirst _ ihfirst ihsecond =>
    exact ihsecond.of_frames_eq ihfirst hfirst.keeps.guestCodes_subset
  | record _ _ _ _ _ ih => exact ih.congr rfl
  | load => rfl
  | message => rfl
  | initializer _ htake _ _ hends ih =>
    exact hends.stackAfter (Machine.mem_guestCodes_of_takeInitializer? htake) rfl
      (Execution.keeps_enterInitializer htake).guestCodes_subset ih
  | initializerTooDeep => trivial
  | construct => rfl
  | constructor _ _ _ htake _ _ hends ih =>
    exact (hends.stackAfter (Machine.mem_guestCodes_of_takeConstructor? htake) rfl
      (Execution.keeps_enterConstructor htake).guestCodes_subset ih).congr rfl
  | constructorTooDeep => trivial
  | caught _ _ hframes hentry =>
    obtain ⟨hmem, hprotects⟩ := CatchTable.mem_covering.1 hentry
    refine ⟨[], _, _, hframes, ?_, ⟨_, hmem, hprotects, rfl⟩, by simp⟩
    simp [Thread.setPc, hframes]
  | popped hframes hframe _ hexit ih => exact ih.popped hframes hframe hexit
  | uncaught diagnostic hframes => exact ⟨.refl _ _, fun _ _ => hframes⟩
  | bootstrap => exact ⟨.refl _ _, fun _ h => by cases h⟩
  | constructionDepth => exact ⟨.refl _ _, fun _ h => by cases h⟩
  | fault => trivial

end ExceptionDispatch
